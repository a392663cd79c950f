import LayoutAdblock.Data.Duration
import LayoutAdblock.Engine.Schedule

namespace LayoutAdblock.Engine

open Data

/-! # The intervals in machine arithmetic

The functions of the schedule as they are computed, with no result where the
arithmetic would panic.  They never do, and agree with the counts of nanoseconds.
-/

namespace Schedule

/-- How long the processes are taken for the same while all of them run. -/
def aliveResyncInterval : Duration := .fromSecs 30

/-- How often a program that is not there is looked for, the longer absences first. -/
def absentBackoff : List (Duration × Duration) :=
  [(.fromSecs 30, .fromSecs 2), (.fromSecs 5, .fromSecs 1)]

/-- How long nothing has to happen before the engine slows down. -/
def quietBeforeBackoff : Duration := .fromSecs 10

/-- The time between two scans, in the duration type of the program and with its operations. -/
def pidScanInterval (settings : Config.AppSettings) (pidsAlive : Bool) (absentFor : Duration) :
    Duration :=
  let base := Duration.fromMillis (max settings.pidScanIntervalMs 200).toUInt64
  if settings.lowLatencyMode then if pidsAlive then max base (.fromSecs 2) else base
  else if pidsAlive then aliveResyncInterval
  else
    let found := absentBackoff.find? fun entry => decide (entry.1 ≤ absentFor)
    max base ((found.map Prod.snd).getD .zero)

/-- The time between two ticks, in the duration type of the program. None where one of its
checked operations fails, which none of the settings can bring about. -/
def reconcileInterval (settings : Config.AppSettings) (active : Bool) (quietFor : Duration)
    (hookInstalled : Bool) : Option Duration :=
  let idle := Duration.fromMillis (max settings.idlePollIntervalMs 200).toUInt64
  if active then
    some (min (.fromMillis (max settings.pollIntervalMs 50).toUInt64) idle)
  else
    let longest := Duration.fromMillis settings.idleBackoffMaxMs.toUInt64
    if !hookInstalled || decide (longest ≤ idle) || decide (quietFor < quietBeforeBackoff) then
      some idle
    else do
      let past ← quietFor.checkedSub quietBeforeBackoff
      let steps ← checkedAdd (past.asSecs / 10) 1
      let factor ← checkedShl 1 (min steps 16).toUInt32
      some (min (idle.saturatingMul factor) longest)

theorem nanos_atLeast (setting : UInt32) {least : UInt32} {count : Nat}
    (same : least.toNat = count) :
    (Duration.fromMillis (max setting least).toUInt64).nanos =
      millis (max setting.toNat count) := by
  rw [Duration.nanos_fromMillis, UInt32.toNat_toUInt64, toNat_max, millis, same]

theorem absentBackoff_eq : Engine.absentBackoff =
    absentBackoff.map fun entry => (entry.1.nanos, entry.2.nanos) := by
  simp [Engine.absentBackoff, absentBackoff, seconds]

theorem nanos_absentFloor (absentFor : Duration) :
    (((absentBackoff.find? fun entry => decide (entry.1 ≤ absentFor)).map Prod.snd).getD
        .zero).nanos =
      ((Engine.absentBackoff.find? fun entry => decide (entry.1 ≤ absentFor.nanos)).map
        Prod.snd).getD 0 := by
  have same : ((fun entry : Nat × Nat => decide (entry.1 ≤ absentFor.nanos)) ∘
      fun entry : Duration × Duration => (entry.1.nanos, entry.2.nanos)) =
        fun entry => decide (entry.1 ≤ absentFor) := rfl
  rw [absentBackoff_eq, List.find?_map, same]
  cases absentBackoff.find? fun entry => decide (entry.1 ≤ absentFor) with
  | none => rfl
  | some entry => rfl

theorem nanos_fromSecs_two : (Duration.fromSecs 2).nanos = seconds 2 := by
  simp [seconds]

theorem nanos_pidScanInterval (settings : Config.AppSettings) (pidsAlive : Bool)
    (absentFor : Duration) :
    (pidScanInterval settings pidsAlive absentFor).nanos =
      Engine.pidScanInterval settings pidsAlive absentFor.nanos := by
  have base : (Duration.fromMillis (max settings.pidScanIntervalMs 200).toUInt64).nanos =
      millis (max settings.pidScanIntervalMs.toNat 200) :=
    nanos_atLeast settings.pidScanIntervalMs (by simp)
  unfold pidScanInterval Engine.pidScanInterval
  cases settings.lowLatencyMode with
  | true =>
      cases pidsAlive with
      | true => simp only [if_true, Duration.nanos_max, base, nanos_fromSecs_two]
      | false => simpa using base
  | false =>
      cases pidsAlive with
      | true => simp [aliveResyncInterval, Engine.aliveResyncInterval, seconds]
      | false =>
          simp only [Bool.false_eq_true, if_false, Duration.nanos_max, base]
          rw [nanos_absentFloor]

theorem nanos_quietBeforeBackoff :
    quietBeforeBackoff.nanos = Engine.quietBeforeBackoff := by
  simp [quietBeforeBackoff, Engine.quietBeforeBackoff, seconds]

/-- Neither the count of the doublings nor the shift by it can overflow. -/
theorem doubling_of_past (past : Duration) :
    ∃ steps factor, checkedAdd (past.asSecs / 10) 1 = some steps ∧
      checkedShl 1 (min steps 16).toUInt32 = some factor ∧
      factor.toNat = 2 ^ min (past.nanos / seconds 1 / 10 + 1) 16 := by
  have quotient : (past.asSecs / 10).toNat = past.nanos / seconds 1 / 10 := by
    rw [UInt64.toNat_div, Duration.toNat_asSecs]
    simp [seconds]
  have small : (past.asSecs / 10).toNat + (1 : UInt64).toNat < 2 ^ 64 := by
    have := past.bounded
    rw [UInt64.toNat_div, Duration.toNat_asSecs]
    simp only [UInt64.reduceToNat]
    omega
  obtain ⟨steps, added, stepsNat⟩ := checkedAdd_of_lt small
  have most : min (past.nanos / seconds 1 / 10 + 1) 16 < 32 :=
    lt_of_le_of_lt (Nat.min_le_right _ _) (by decide)
  have count : (min steps 16).toUInt32.toNat = min (past.nanos / seconds 1 / 10 + 1) 16 := by
    rw [UInt64.toNat_toUInt32, toNat_min, stepsNat, quotient]
    exact Nat.mod_eq_of_lt (most.trans (by decide))
  obtain ⟨factor, shifted, power⟩ := checkedShl_one (count ▸ most)
  exact ⟨steps, factor, added, shifted, count ▸ power⟩

/-- The interval is computed without a panic. -/
theorem reconcileInterval_eq (settings : Config.AppSettings) (active : Bool)
    (quietFor : Duration) (hookInstalled : Bool) :
    ∃ interval, reconcileInterval settings active quietFor hookInstalled = some interval ∧
      interval.nanos =
        Engine.reconcileInterval settings active quietFor.nanos hookInstalled := by
  have idle : (Duration.fromMillis (max settings.idlePollIntervalMs 200).toUInt64).nanos =
      millis (max settings.idlePollIntervalMs.toNat 200) :=
    nanos_atLeast settings.idlePollIntervalMs (by simp)
  have poll : (Duration.fromMillis (max settings.pollIntervalMs 50).toUInt64).nanos =
      millis (max settings.pollIntervalMs.toNat 50) :=
    nanos_atLeast settings.pollIntervalMs (by simp)
  have longest : (Duration.fromMillis settings.idleBackoffMaxMs.toUInt64).nanos =
      millis settings.idleBackoffMaxMs.toNat := by
    rw [Duration.nanos_fromMillis, UInt32.toNat_toUInt64, millis]
  unfold reconcileInterval Engine.reconcileInterval
  dsimp only
  cases active with
  | true =>
      refine ⟨_, rfl, ?_⟩
      rw [Duration.nanos_min, idle, poll, if_pos rfl]
  | false =>
      have guard : (!hookInstalled ||
          decide (Duration.fromMillis settings.idleBackoffMaxMs.toUInt64 ≤
            Duration.fromMillis (max settings.idlePollIntervalMs 200).toUInt64) ||
          decide (quietFor < quietBeforeBackoff)) =
          (!hookInstalled || decide (millis settings.idleBackoffMaxMs.toNat ≤
            millis (max settings.idlePollIntervalMs.toNat 200)) ||
          decide (quietFor.nanos < Engine.quietBeforeBackoff)) := by
        have capped : decide (Duration.fromMillis settings.idleBackoffMaxMs.toUInt64 ≤
            Duration.fromMillis (max settings.idlePollIntervalMs 200).toUInt64) =
            decide (millis settings.idleBackoffMaxMs.toNat ≤
              millis (max settings.idlePollIntervalMs.toNat 200)) := by
          rw [decide_eq_decide, Duration.le_iff, longest, idle]
        have early : decide (quietFor < quietBeforeBackoff) =
            decide (quietFor.nanos < Engine.quietBeforeBackoff) := by
          rw [decide_eq_decide, Duration.lt_iff, nanos_quietBeforeBackoff]
        rw [capped, early]
      simp only [Bool.false_eq_true, if_false, guard]
      split
      · exact ⟨_, rfl, idle⟩
      · rename_i backsOff
        simp only [Bool.or_eq_true, not_or, decide_eq_true_eq] at backsOff
        have late : quietBeforeBackoff ≤ quietFor := by
          rw [Duration.le_iff, nanos_quietBeforeBackoff]
          omega
        obtain ⟨past, subtracted, pastNanos⟩ := Duration.checkedSub_of_le late
        obtain ⟨steps, factor, added, shifted, power⟩ := doubling_of_past past
        have whole : past.nanos / seconds 1 =
            (quietFor.nanos - Engine.quietBeforeBackoff) / seconds 1 := by
          rw [pastNanos, nanos_quietBeforeBackoff]
        refine ⟨min ((Duration.fromMillis
          (max settings.idlePollIntervalMs 200).toUInt64).saturatingMul factor)
          (Duration.fromMillis settings.idleBackoffMaxMs.toUInt64), ?_, ?_⟩
        · rw [subtracted, Option.bind_eq_bind, Option.bind_some, added, Option.bind_eq_bind,
            Option.bind_some, shifted]
          rfl
        · rw [Duration.min_saturatingMul, idle, longest, power, whole]

end Schedule

/-- The time between two ticks while nothing happens, before the engine slows down. -/
def idleInterval (settings : Config.AppSettings) : Nat :=
  millis (max settings.idlePollIntervalMs.toNat 200)

/-- The time between two ticks that is never exceeded. -/
def longestInterval (settings : Config.AppSettings) : Nat :=
  millis settings.idleBackoffMaxMs.toNat

/-- That time after a while without events: doubled every ten seconds, sixteen times at
most, up to the longest one. -/
def backedOff (settings : Config.AppSettings) (quietFor : Nat) : Nat :=
  let doublings := min ((quietFor - quietBeforeBackoff) / seconds 1 / 10 + 1) 16
  min (idleInterval settings * 2 ^ doublings) (longestInterval settings)

variable {settings : Config.AppSettings} {quietFor : Nat}

theorem reconcileInterval_active (hookInstalled : Bool) :
    reconcileInterval settings true quietFor hookInstalled =
      min (millis (max settings.pollIntervalMs.toNat 50)) (idleInterval settings) := by
  rw [reconcileInterval, if_pos rfl, idleInterval]

theorem reconcileInterval_unhooked :
    reconcileInterval settings false quietFor false = idleInterval settings := by
  simp [reconcileInterval, idleInterval]

theorem reconcileInterval_hooked :
    reconcileInterval settings false quietFor true =
      if longestInterval settings ≤ idleInterval settings ∨ quietFor < quietBeforeBackoff then
        idleInterval settings
      else backedOff settings quietFor := by
  unfold reconcileInterval
  simp only [Bool.false_eq_true, if_false, Bool.not_true, Bool.false_or, Bool.or_eq_true,
    decide_eq_true_eq]
  rfl

theorem idleInterval_le_backedOff (longer : idleInterval settings < longestInterval settings) :
    idleInterval settings ≤ backedOff settings quietFor :=
  le_min (Nat.le_mul_of_pos_right _ (Nat.two_pow_pos _)) (Nat.le_of_lt longer)

theorem backedOff_mono (settings : Config.AppSettings) : Monotone (backedOff settings) := by
  intro quiet later longer
  have more : (quiet - quietBeforeBackoff) / seconds 1 / 10 ≤
      (later - quietBeforeBackoff) / seconds 1 / 10 :=
    Nat.div_le_div_right (Nat.div_le_div_right (Nat.sub_le_sub_right longer _))
  have doublings : min ((quiet - quietBeforeBackoff) / seconds 1 / 10 + 1) 16 ≤
      min ((later - quietBeforeBackoff) / seconds 1 / 10 + 1) 16 := by
    generalize (quiet - quietBeforeBackoff) / seconds 1 / 10 = first at more ⊢
    generalize (later - quietBeforeBackoff) / seconds 1 / 10 = second at more ⊢
    omega
  have powers := Nat.pow_le_pow_right (by decide : 0 < 2) doublings
  unfold backedOff
  exact min_le_min_right _ (Nat.mul_le_mul_left _ powers)

/-- The interval only grows with the quiet time. -/
theorem reconcileInterval_mono (settings : Config.AppSettings) (active hookInstalled : Bool) :
    Monotone fun quietFor => reconcileInterval settings active quietFor hookInstalled := by
  intro quiet later longer
  dsimp only
  cases active with
  | true => rw [reconcileInterval_active, reconcileInterval_active]
  | false =>
      cases hookInstalled with
      | false => rw [reconcileInterval_unhooked, reconcileInterval_unhooked]
      | true =>
          rw [reconcileInterval_hooked, reconcileInterval_hooked]
          by_cases capped : longestInterval settings ≤ idleInterval settings
          · rw [if_pos (Or.inl capped), if_pos (Or.inl capped)]
          · by_cases early : quiet < quietBeforeBackoff
            · rw [if_pos (Or.inr early)]
              split
              · exact le_refl _
              · exact idleInterval_le_backedOff (Nat.lt_of_not_le capped)
            · have late : ¬ later < quietBeforeBackoff := by omega
              rw [if_neg (not_or.mpr ⟨capped, early⟩), if_neg (not_or.mpr ⟨capped, late⟩)]
              exact backedOff_mono settings longer

theorem reconcileInterval_le (active hookInstalled : Bool) :
    reconcileInterval settings active quietFor hookInstalled ≤
      max (idleInterval settings) (longestInterval settings) := by
  cases active with
  | true =>
      rw [reconcileInterval_active]
      exact (min_le_right _ _).trans (le_max_left _ _)
  | false =>
      cases hookInstalled with
      | false => exact le_max_left _ _
      | true =>
          rw [reconcileInterval_hooked]
          split
          · exact le_max_left _ _
          · exact (min_le_right _ _).trans (le_max_right _ _)

theorem le_reconcileInterval (active hookInstalled : Bool) :
    min (idleInterval settings) (millis (max settings.pollIntervalMs.toNat 50)) ≤
      reconcileInterval settings active quietFor hookInstalled := by
  cases active with
  | true =>
      rw [reconcileInterval_active]
      exact le_of_eq (min_comm _ _)
  | false =>
      cases hookInstalled with
      | false => exact min_le_left _ _
      | true =>
          rw [reconcileInterval_hooked]
          split
          · exact min_le_left _ _
          · rename_i backsOff
            rw [not_or, Nat.not_le] at backsOff
            exact (min_le_left _ _).trans (idleInterval_le_backedOff backsOff.1)

/-- Sixteen doublings are due after 160 seconds. -/
theorem reconcileInterval_reaches (longer : idleInterval settings < longestInterval settings)
    (within : longestInterval settings ≤ idleInterval settings * 65536)
    (quiet : seconds 160 ≤ quietFor) :
    reconcileInterval settings false quietFor true = longestInterval settings := by
  have late : ¬ quietFor < quietBeforeBackoff := by
    simp only [seconds, quietBeforeBackoff] at quiet ⊢
    omega
  have doublings : min ((quietFor - quietBeforeBackoff) / seconds 1 / 10 + 1) 16 = 16 := by
    simp only [seconds, quietBeforeBackoff] at quiet ⊢
    omega
  have power : 2 ^ 16 = 65536 := rfl
  rw [reconcileInterval_hooked, if_neg (not_or.mpr ⟨Nat.not_le.mpr longer, late⟩), backedOff,
    doublings, power]
  exact min_eq_right within

theorem absentFloor_eq (absentFor : Nat) :
    ((absentBackoff.find? fun entry => decide (entry.1 ≤ absentFor)).map Prod.snd).getD 0 =
      if seconds 30 ≤ absentFor then seconds 2
      else if seconds 5 ≤ absentFor then seconds 1 else 0 := by
  simp only [absentBackoff, List.find?_cons, List.find?_nil]
  by_cases long : seconds 30 ≤ absentFor
  · simp [long]
  · by_cases short : seconds 5 ≤ absentFor
    · simp [long, short]
    · simp [long, short]

theorem pidScanInterval_mono (settings : Config.AppSettings) (pidsAlive : Bool) :
    Monotone (pidScanInterval settings pidsAlive) := by
  intro absent later longer
  unfold pidScanInterval
  split
  · exact le_refl _
  · split
    · exact le_refl _
    · refine max_le_max_left _ ?_
      rw [absentFloor_eq, absentFloor_eq]
      split_ifs <;> simp only [seconds] at * <;> omega

theorem le_pidScanInterval (settings : Config.AppSettings) (pidsAlive : Bool) (absentFor : Nat) :
    millis 200 ≤ pidScanInterval settings pidsAlive absentFor := by
  have base : millis 200 ≤ millis (max settings.pidScanIntervalMs.toNat 200) :=
    Nat.mul_le_mul_right _ (le_max_right _ _)
  unfold pidScanInterval
  split
  · split
    · exact base.trans (le_max_left _ _)
    · exact base
  · split
    · simp [aliveResyncInterval, millis, seconds]
    · exact base.trans (le_max_left _ _)

namespace Schedule

def reconciled (settings : Config.AppSettings) (active : Bool) (quietFor : Duration)
    (hookInstalled : Bool) : Duration where
  nanos := Engine.reconcileInterval settings active quietFor.nanos hookInstalled
  bounded := by
    obtain ⟨interval, _, same⟩ := reconcileInterval_eq settings active quietFor hookInstalled
    exact same ▸ interval.bounded

theorem reconcileInterval_eq_some (settings : Config.AppSettings) (active : Bool)
    (quietFor : Duration) (hookInstalled : Bool) :
    reconcileInterval settings active quietFor hookInstalled =
      some (reconciled settings active quietFor hookInstalled) := by
  obtain ⟨interval, computed, same⟩ := reconcileInterval_eq settings active quietFor hookInstalled
  rw [computed]
  exact congrArg some (Duration.ext same)

/-- The first of the three times the program works with. -/
def idle (settings : Config.AppSettings) : Duration :=
  .fromMillis (max settings.idlePollIntervalMs 200).toUInt64

def poll (settings : Config.AppSettings) : Duration :=
  .fromMillis (max settings.pollIntervalMs 50).toUInt64

/-- The third of them, which bounds the first as it grows. -/
def longest (settings : Config.AppSettings) : Duration :=
  .fromMillis settings.idleBackoffMaxMs.toUInt64

theorem nanos_idle (settings : Config.AppSettings) :
    (idle settings).nanos = idleInterval settings :=
  nanos_atLeast settings.idlePollIntervalMs (by simp)

theorem nanos_poll (settings : Config.AppSettings) :
    (poll settings).nanos = millis (max settings.pollIntervalMs.toNat 50) :=
  nanos_atLeast settings.pollIntervalMs (by simp)

theorem nanos_longest (settings : Config.AppSettings) :
    (longest settings).nanos = longestInterval settings := by
  rw [longest, Duration.nanos_fromMillis, UInt32.toNat_toUInt64, longestInterval, millis]

theorem reconciled_reaches {settings : Config.AppSettings} {quietFor : Duration}
    (longer : idle settings < longest settings)
    (within : (longest settings).nanos ≤ (idle settings).nanos * 65536)
    (quiet : Duration.fromSecs 160 ≤ quietFor) :
    reconciled settings false quietFor true = longest settings := by
  rw [Duration.lt_iff, nanos_idle, nanos_longest] at longer
  rw [nanos_idle, nanos_longest] at within
  rw [Duration.le_iff, Duration.nanos_fromSecs] at quiet
  refine Duration.ext ?_
  rw [nanos_longest]
  exact reconcileInterval_reaches longer within (by simpa [seconds] using quiet)

/-- The intervals are always computed, keep within their bounds, only grow with the
quiet time and the absence, and the backoff reaches its cap once no window event
keeps the worker active. -/
theorem intervals_lawful (settings : Config.AppSettings) :
    (∀ active quietFor hookInstalled,
      reconcileInterval settings active quietFor hookInstalled =
        some (reconciled settings active quietFor hookInstalled)) ∧
    (∀ active hookInstalled,
      Monotone fun quietFor => reconciled settings active quietFor hookInstalled) ∧
    (∀ active quietFor hookInstalled,
      reconciled settings active quietFor hookInstalled ≤
        max (idle settings) (longest settings)) ∧
    (∀ active quietFor hookInstalled,
      min (idle settings) (poll settings) ≤
        reconciled settings active quietFor hookInstalled) ∧
    (∀ active quietFor other,
      reconciled settings active quietFor false = reconciled settings active other false) ∧
    (∀ active : Duration → Bool, (∃ since, ∀ quietFor, since ≤ quietFor → active quietFor = false) →
      idle settings < longest settings →
      (longest settings).nanos ≤ (idle settings).nanos * 65536 →
      ∃ enough, ∀ quietFor, enough ≤ quietFor →
        reconciled settings (active quietFor) quietFor true = longest settings) ∧
    (∀ pidsAlive, Monotone (pidScanInterval settings pidsAlive)) ∧
    (∀ pidsAlive absentFor,
      Duration.fromMillis 200 ≤ pidScanInterval settings pidsAlive absentFor) ∧
    (settings.lowLatencyMode = true → ∀ pidsAlive absentFor other,
      pidScanInterval settings pidsAlive absentFor =
        pidScanInterval settings pidsAlive other) := by
  refine ⟨reconcileInterval_eq_some settings, ?_, ?_, ?_, ?_, ?_, ?_, ?_, ?_⟩
  · intro active hookInstalled quiet later longer
    exact reconcileInterval_mono settings active hookInstalled longer
  · intro active quietFor hookInstalled
    rw [Duration.le_iff, Duration.nanos_max, nanos_idle, nanos_longest]
    exact reconcileInterval_le active hookInstalled
  · intro active quietFor hookInstalled
    rw [Duration.le_iff, Duration.nanos_min, nanos_idle, nanos_poll]
    exact le_reconcileInterval active hookInstalled
  · intro active quietFor other
    refine Duration.ext ?_
    dsimp only [reconciled]
    cases active with
    | true => rw [reconcileInterval_active, reconcileInterval_active]
    | false => rw [reconcileInterval_unhooked, reconcileInterval_unhooked]
  · intro active ends longer within
    obtain ⟨since, ended⟩ := ends
    refine ⟨max since (.fromSecs 160), fun quietFor quiet => ?_⟩
    rw [ended quietFor ((le_max_left _ _).trans quiet)]
    exact reconciled_reaches longer within ((le_max_right _ _).trans quiet)
  · intro pidsAlive absent later longer
    rw [Duration.le_iff, nanos_pidScanInterval, nanos_pidScanInterval]
    exact pidScanInterval_mono settings pidsAlive longer
  · intro pidsAlive absentFor
    have least := le_pidScanInterval settings pidsAlive absentFor.nanos
    rw [Duration.le_iff, nanos_pidScanInterval, Duration.nanos_fromMillis]
    simpa [millis] using least
  · intro lowLatency pidsAlive absentFor other
    simp [pidScanInterval, lowLatency]

/-- With low latency the backoff reaches its second, and a missing process is looked
for as often after an hour as at once. -/
theorem intervals_lawful_lowLatency :
    let settings : Config.AppSettings := { lowLatencyMode := true }
    (∃ enough, ∀ quietFor, enough ≤ quietFor →
      reconciled settings false quietFor true = .fromMillis 1000) ∧
    pidScanInterval settings false (.fromSecs 3600) = pidScanInterval settings false .zero := by
  intro settings
  obtain ⟨_, _, _, _, _, reaches, _, _, independent⟩ := intervals_lawful settings
  constructor
  · exact reaches (fun _ => false) ⟨.zero, fun _ _ => rfl⟩ (by decide) (by decide)
  · exact independent rfl false (.fromSecs 3600) .zero

end Schedule

end LayoutAdblock.Engine
