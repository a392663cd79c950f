import Mathlib.Data.List.AList
import Mathlib.Data.Prod.Lex
import LayoutAdblock.Core.Evaluate.Orchestrate
import LayoutAdblock.Interaction.Program

namespace LayoutAdblock.Engine

open LayoutAdblock.Core Interaction

/-! # The caches of the engine, and its calls

The calls go to the world around it: Win32, the flags it shares with the UI
thread, the clock, and its own caches, whose hash maps iterate in an order of
their own.  Debug logging is left out, with the reads that only feed it.
-/

/-- What a window looked like before the engine touched it, which is all a restore goes by. -/
structure RestoreSnapshot where
  identity : WindowIdentity
  wasVisible : Bool
  rect : Option Rect
  topLevel : Bool
deriving DecidableEq, Repr

/-- How often a hidden window has missed its match and how often a restore of it has failed.
The counters are `u32`s that saturate. -/
structure StaleState where
  missStreak : Nat := 0
  attempts : Nat := 0
  cooldown : Nat := 0
  warned : Bool := false
deriving DecidableEq, Repr

def u32Max : Nat := 4294967295

/-- A count that stops at the largest number it can hold. -/
def saturatingSucc (count : Nat) : Nat := min (count + 1) u32Max

/-- How many misses in a row make a restore due, so that a window that is matched again at
once does not flicker. -/
def restoreMissThreshold : Nat := 2

/-- After so many failures the engine gives up for a longer time. -/
def restoreMaxAttempts : Nat := 5

def restoreGiveupCooldownTicks : Nat := 300

/-- The snapshots by window. There is no order among them, as in the hash map of the
program. -/
abbrev Snapshots := AList fun _ : WindowIdentity => RestoreSnapshot

/-- An `Instant` is a count of nanoseconds. -/
abbrev Instant := Nat

/-- What the engine keeps from one tick to the next: the snapshots, the streaks, and the
misses and failures of each window. -/
structure EngineCaches where
  snapshots : Snapshots := ∅
  states : StateMap := StateMap.empty
  stale : AList fun _ : WindowIdentity => StaleState := ∅
  lastCleanup : Option Instant := none

/-- The entries of the snapshot map, in one of its iteration orders. -/
def Snapshots.pairs (snapshots : Snapshots) : List (WindowIdentity × RestoreSnapshot) :=
  snapshots.entries.map fun entry => (entry.1, entry.2)

/-- How many windows have failed to be restored and are still being tried. -/
def EngineCaches.restoreFailureCount (caches : EngineCaches) : Nat :=
  min (caches.stale.entries.countP fun entry => decide (0 < entry.2.attempts)) u32Max

/-- What `ShowWindow` is asked for. -/
inductive ShowCommand where
  | hide | «show»
deriving DecidableEq, Repr

/-- The flags of `SetWindowPos` the engine uses. -/
inductive SwpFlag where
  | noMove | noZOrder | noActivate
deriving DecidableEq, Repr

/-- The switches the engine shares with the rest of the program. -/
inductive Flag where
  | stopping | enabled | apply | aggressive
deriving DecidableEq, Repr

/-- What the engine publishes in `SharedFlags` or writes into the log: counters, the gauge
of failed restores, a failed stale restore, and the candidates of the shadow mode. -/
inductive Note where
  | mainWindows (count : Int)
  | hiddenWindow
  | resizedWindow
  | closedWindow
  | restoreFailures (failures : Nat) (error : String)
  | staleRestoreFailed (hwnd : Hwnd) (attempts cooldown : Nat) (error : String)
  | shadow (candidate : CandidatePayload)
deriving DecidableEq, Repr

/-- What the engine asks of Windows, of the flags and of its own caches. Its reports are
calls too, since what they publish is part of what it does. -/
inductive Call where
  | enumWindows
  | enumDescendantWindows (parent : Hwnd)
  | getWindowThreadProcessId (hwnd : Hwnd)
  | getClassName (hwnd : Hwnd)
  | getWindowTextResult (hwnd : Hwnd)
  | getParent (hwnd : Hwnd)
  | getWindowRect (hwnd : Hwnd)
  | isWindow (hwnd : Hwnd)
  | isWindowVisible (hwnd : Hwnd)
  | hasVisibleStyle (hwnd : Hwnd)
  | isHungAppWindow (hwnd : Hwnd)
  | showWindow (hwnd : Hwnd) (command : ShowCommand)
  | setWindowPos (hwnd : Hwnd) (x y width height : Int) (flags : List SwpFlag)
  | sendMessageTimeout (hwnd : Hwnd) (message wparam : Nat) (lparam : Int) (timeoutMs : Nat)
  | load (flag : Flag)
  | now
  | note (what : Note)
  | readCaches
  | writeCaches (caches : EngineCaches)
  | iterateSnapshots

/-- What these calls answer. Windows may refuse any of them, also for a window that was
there a moment ago. -/
@[reducible] def Call.Answer : Call → Type
  | enumWindows | enumDescendantWindows _ => List Hwnd
  | getWindowThreadProcessId _ => Pid
  | getClassName _ => String
  | getWindowTextResult _ => WindowText
  | getParent _ => Hwnd
  | getWindowRect _ => Option Rect
  | isWindow _ | isWindowVisible _ | hasVisibleStyle _ | isHungAppWindow _ => Bool
  | showWindow _ _ | setWindowPos _ _ _ _ _ _ => Bool
  | sendMessageTimeout _ _ _ _ _ => Bool × Int
  | load _ => Bool
  | now => Instant
  | note _ | writeCaches _ => Unit
  | readCaches => EngineCaches
  | iterateSnapshots => List (WindowIdentity × RestoreSnapshot)

def wmClose : Nat := 16

/-- The window a call changes or may destroy. A close may end its window, and with it every
window below. -/
def Call.mutates : Call → Option Hwnd
  | showWindow hwnd _ | setWindowPos hwnd _ _ _ _ _ | sendMessageTimeout hwnd _ _ _ _ => some hwnd
  | _ => none

abbrev EngineM := Program Call Call.Answer

def ask (call : Call) : EngineM call.Answer := Program.ask call

/-- The snapshots are changed and written back. -/
def modifySnapshots (change : Snapshots → Snapshots) : EngineM Unit := do
  let caches ← ask .readCaches
  ask (.writeCaches { caches with snapshots := change caches.snapshots })

end LayoutAdblock.Engine
