import Mathlib.Algebra.Ring.Nat
import Mathlib.Order.Lattice
import Mathlib.Order.Monotone.Basic
import Mathlib.Data.Nat.Init

namespace LayoutAdblock.Data

/-! # Durations

A duration is a count of nanoseconds whose whole seconds fit into 64 bits.
Arithmetic that would panic has no result.
-/

/-- A span of time as the standard library keeps it, in nanoseconds below a bound that no
operation passes. -/
structure Duration where
  nanos : Nat
  bounded : nanos < 2 ^ 64 * 1000000000

namespace Duration

variable {first second : Duration}

@[ext] theorem ext (same : first.nanos = second.nanos) : first = second := by
  cases first
  cases second
  cases same
  rfl

instance : LinearOrder Duration := LinearOrder.lift' nanos fun _ _ same => ext same

def zero : Duration := ⟨0, by decide⟩

/-- Whole seconds; every number of them is a duration. -/
def fromSecs (secs : UInt64) : Duration where
  nanos := secs.toNat * 1000000000
  bounded := Nat.mul_lt_mul_of_pos_right secs.toNat_lt (by decide)

def fromMillis (millis : UInt64) : Duration where
  nanos := millis.toNat * 1000000
  bounded := by
    have := millis.toNat_lt
    omega

/-- The whole seconds of a duration; the rest is dropped. -/
def asSecs (duration : Duration) : UInt64 := UInt64.ofNat (duration.nanos / 1000000000)

/-- The time that is left, or none where more is taken away than there is. -/
def checkedSub (first second : Duration) : Option Duration :=
  if second ≤ first then
    some ⟨first.nanos - second.nanos, lt_of_le_of_lt (Nat.sub_le _ _) first.bounded⟩
  else none

/-- A multiple of a duration, or the longest one where that is out of range. -/
def saturatingMul (duration : Duration) (factor : UInt32) : Duration where
  nanos := min (duration.nanos * factor.toNat) (2 ^ 64 * 1000000000 - 1)
  bounded := by omega

theorem le_iff : first ≤ second ↔ first.nanos ≤ second.nanos := Iff.rfl

theorem lt_iff : first < second ↔ first.nanos < second.nanos := Iff.rfl

@[simp] theorem nanos_min (first second : Duration) :
    (min first second).nanos = min first.nanos second.nanos := by
  rcases le_total first second with order | order
  · rw [min_eq_left order, min_eq_left (le_iff.mp order)]
  · rw [min_eq_right order, min_eq_right (le_iff.mp order)]

@[simp] theorem nanos_max (first second : Duration) :
    (max first second).nanos = max first.nanos second.nanos := by
  rcases le_total first second with order | order
  · rw [max_eq_right order, max_eq_right (le_iff.mp order)]
  · rw [max_eq_left order, max_eq_left (le_iff.mp order)]

@[simp] theorem nanos_fromSecs (secs : UInt64) :
    (fromSecs secs).nanos = secs.toNat * 1000000000 := rfl

@[simp] theorem nanos_fromMillis (millis : UInt64) :
    (fromMillis millis).nanos = millis.toNat * 1000000 := rfl

@[simp] theorem toNat_asSecs (duration : Duration) :
    duration.asSecs.toNat = duration.nanos / 1000000000 := by
  have := duration.bounded
  rw [asSecs, UInt64.toNat_ofNat', Nat.mod_eq_of_lt (by omega)]

theorem checkedSub_of_le (below : second ≤ first) :
    ∃ rest, first.checkedSub second = some rest ∧ rest.nanos = first.nanos - second.nanos := by
  rw [checkedSub, if_pos below]
  exact ⟨_, rfl, rfl⟩

/-- Below a cap the saturation is not seen. -/
theorem min_saturatingMul (duration : Duration) (factor : UInt32) (cap : Duration) :
    (min (duration.saturatingMul factor) cap).nanos =
      min (duration.nanos * factor.toNat) cap.nanos := by
  have := cap.bounded
  rw [nanos_min]
  dsimp only [saturatingMul]
  omega

end Duration

/-- A sum that is refused where it does not fit. -/
def checkedAdd (first second : UInt64) : Option UInt64 :=
  if first.toNat + second.toNat < 2 ^ 64 then some (first + second) else none

/-- Only the number of places is checked. Bits that are moved out at the top are lost
without notice. -/
def checkedShl (bits : UInt32) (count : UInt32) : Option UInt32 :=
  if count.toNat < 32 then some (bits <<< count) else none

theorem checkedAdd_of_lt {first second : UInt64} (fits : first.toNat + second.toNat < 2 ^ 64) :
    ∃ total, checkedAdd first second = some total ∧
      total.toNat = first.toNat + second.toNat := by
  rw [checkedAdd, if_pos fits]
  exact ⟨_, rfl, by rw [UInt64.toNat_add, Nat.mod_eq_of_lt fits]⟩

theorem checkedShl_one {count : UInt32} (fits : count.toNat < 32) :
    ∃ power, checkedShl 1 count = some power ∧ power.toNat = 2 ^ count.toNat := by
  rw [checkedShl, if_pos fits]
  refine ⟨_, rfl, ?_⟩
  have below : 2 ^ count.toNat < 2 ^ 32 := Nat.pow_lt_pow_right (by decide) fits
  rw [UInt32.toNat_shiftLeft, Nat.mod_eq_of_lt fits, UInt32.toNat_one, Nat.one_shiftLeft,
    Nat.mod_eq_of_lt below]

theorem toNat_max (first second : UInt32) :
    (max first second).toNat = max first.toNat second.toNat := by
  change (if first ≤ second then second else first).toNat = _
  split <;> rename_i order <;> rw [UInt32.le_iff_toNat_le] at order <;> omega

theorem toNat_min (first second : UInt64) :
    (min first second).toNat = min first.toNat second.toNat := by
  change (if first ≤ second then first else second).toNat = _
  split <;> rename_i order <;> rw [UInt64.le_iff_toNat_le] at order <;> omega

end LayoutAdblock.Data
