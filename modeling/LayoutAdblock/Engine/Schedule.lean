import LayoutAdblock.Config.Settings
import LayoutAdblock.Engine.Tick

namespace LayoutAdblock.Engine

/-! # When the worker scans and reconciles

Durations are counts of nanoseconds.
-/

def millis (count : Nat) : Nat := count * 1000000

def seconds (count : Nat) : Nat := count * 1000000000

/-- How long the processes are taken for the same while all of them run. -/
def aliveResyncInterval : Nat := seconds 30

/-- Absent for at least, scan at most this often, with the longest absence first, so that
the first entry that fits is the one. -/
def absentBackoff : List (Nat × Nat) := [(seconds 30, seconds 2), (seconds 5, seconds 1)]

/-- The longest sleep while KakaoTalk is not there. -/
def absentMaxWait : Nat := seconds 1

/-- How long nothing has to happen before the engine slows down. -/
def quietBeforeBackoff : Nat := seconds 10

/-- How long the engine stays quick after an event. -/
def activeWindow : Nat := seconds 2

/-- After so many panics in a row the loop pauses. -/
def panicBackoffAfter : Nat := 3

def panicBackoff : Nat := seconds 5

/-- The time between two scans of the processes. While all of them run it is half a minute;
while none is there it grows with the absence. -/
def pidScanInterval (settings : Config.AppSettings) (pidsAlive : Bool) (absentFor : Nat) : Nat :=
  let base := millis (max settings.pidScanIntervalMs.toNat 200)
  if settings.lowLatencyMode then if pidsAlive then max base (seconds 2) else base
  else if pidsAlive then aliveResyncInterval
  else
    let found := absentBackoff.find? fun entry => decide (entry.1 ≤ absentFor)
    max base ((found.map Prod.snd).getD 0)

/-- The time between two ticks without an event. It doubles while nothing happens, as long
as the hook would report what does. -/
def reconcileInterval (settings : Config.AppSettings) (active : Bool) (quietFor : Nat)
    (hookInstalled : Bool) : Nat :=
  let idle := millis (max settings.idlePollIntervalMs.toNat 200)
  if active then min (millis (max settings.pollIntervalMs.toNat 50)) idle
  else
    let longest := millis settings.idleBackoffMaxMs.toNat
    if !hookInstalled || longest ≤ idle || quietFor < quietBeforeBackoff then idle
    else
      let doublings := min ((quietFor - quietBeforeBackoff) / seconds 1 / 10 + 1) 16
      min (idle * 2 ^ doublings) longest

/-- The time between two ticks of a burst, whatever the settings say. -/
def burstInterval (settings : Config.AppSettings) : Nat :=
  millis (min (max settings.burstScanIntervalMs.toNat 10) 1000)

/-- How many ticks a burst has, whatever the settings say. -/
def burstScans (settings : Config.AppSettings) : Nat :=
  min (max settings.burstScanIterations.toNat 1) 10

theorem burstInterval_le (settings : Config.AppSettings) : burstInterval settings ≤ seconds 1 := by
  simp only [burstInterval, millis, seconds]
  omega

theorem burstInterval_pos (settings : Config.AppSettings) : 0 < burstInterval settings := by
  simp only [burstInterval, millis]
  omega

theorem reconcileInterval_pos (settings : Config.AppSettings) (active : Bool) (quietFor : Nat)
    (hookInstalled : Bool) : 0 < reconcileInterval settings active quietFor hookInstalled := by
  have idle : 0 < millis (max settings.idlePollIntervalMs.toNat 200) := by
    simp only [millis]
    omega
  unfold reconcileInterval
  dsimp only
  split
  · refine lt_min ?_ idle
    simp only [millis]
    omega
  · split
    · exact idle
    · rename_i backsOff
      simp only [Bool.or_eq_true, not_or, decide_eq_true_eq] at backsOff
      have grows : 0 < 2 ^ min ((quietFor - quietBeforeBackoff) / seconds 1 / 10 + 1) 16 :=
        Nat.two_pow_pos _
      exact lt_min (Nat.mul_pos idle grows) (by omega)

/-- When the hook is tried again, and how often that has failed. -/
structure HookRetry where
  next : Option Instant := none
  failures : Nat := 0

namespace HookRetry

/-- The time for another attempt has come, or none has been made. -/
def due (retry : HookRetry) (instant : Instant) : Bool :=
  retry.next.all fun next => decide (next ≤ instant)

/-- One more failure, and twice the time until the next attempt, up to half a minute. -/
def failed (retry : HookRetry) (instant : Instant) : HookRetry :=
  let failures := saturatingSucc retry.failures
  { next := some (instant + seconds (2 ^ min (failures - 1) 5)), failures := failures }

def remaining (retry : HookRetry) (instant : Instant) : Nat :=
  (retry.next.map fun next => next - instant).getD (seconds 32)

end HookRetry

/-- How long the worker sleeps while it is switched off: until the next restore, where one
is left, or a second. -/
def OffRestore.wait (state : OffRestore) (instant : Instant) : Nat :=
  (state.next.map fun next => next - instant).getD (seconds 1)

end LayoutAdblock.Engine
