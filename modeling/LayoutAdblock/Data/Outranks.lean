import Mathlib.Algebra.Order.Group.Nat
import Mathlib.Data.List.GetD
import Mathlib.Data.Nat.Find

namespace LayoutAdblock.Data

/-! # Sequences of numbers compared lexicographically

A sequence outranks another by the first place in which they differ.  Lists are
sequences that go on with zeros.
-/

/-- The first sequence is lexicographically greater. -/
def Outranks (first second : Nat → Nat) : Prop :=
  ∃ place, second place < first place ∧ ∀ earlier < place, first earlier = second earlier

namespace Outranks

variable {first second third : Nat → Nat}

theorem irrefl (sequence : Nat → Nat) : ¬ Outranks sequence sequence := by
  rintro ⟨place, greater, _⟩
  exact Nat.lt_irrefl _ greater

/-- Sequences that are not the same differ first in some place. -/
theorem exists_first (apart : first ≠ second) :
    ∃ place, first place ≠ second place ∧ ∀ earlier < place, first earlier = second earlier := by
  have somewhere : ∃ place, first place ≠ second place := Function.ne_iff.mp apart
  exact ⟨Nat.find somewhere, Nat.find_spec somewhere,
    fun earlier less => not_not.mp (Nat.find_min somewhere less)⟩

/-- The first difference decides. -/
theorem iff_of_first {place : Nat} (apart : first place ≠ second place)
    (before : ∀ earlier < place, first earlier = second earlier) :
    Outranks first second ↔ second place < first place := by
  constructor
  · rintro ⟨other, greater, same⟩
    rcases Nat.lt_trichotomy other place with less | rfl | more
    · exact absurd (before other less) greater.ne'
    · exact greater
    · exact absurd (same place more) apart
  · exact fun greater => ⟨place, greater, before⟩

/-- Where the sequences agree up to a place, what follows decides. -/
theorem iff_rest {place : Nat} (same : ∀ earlier ≤ place, first earlier = second earlier) :
    Outranks first second ↔
      Outranks (fun later => first (place + 1 + later))
        (fun later => second (place + 1 + later)) := by
  constructor
  · rintro ⟨other, greater, before⟩
    have past : place < other := by
      by_contra early
      exact absurd (same other (by omega)) greater.ne'
    refine ⟨other - (place + 1), ?_, fun earlier less => before _ (by omega)⟩
    simpa only [show place + 1 + (other - (place + 1)) = other by omega] using greater
  · rintro ⟨later, greater, before⟩
    refine ⟨place + 1 + later, greater, fun earlier less => ?_⟩
    by_cases early : earlier ≤ place
    · exact same earlier early
    · have rest := before (earlier - (place + 1)) (by omega)
      simpa only [show place + 1 + (earlier - (place + 1)) = earlier by omega] using rest

theorem asymm (outranks : Outranks first second) : ¬ Outranks second first := by
  obtain ⟨place, greater, before⟩ := outranks
  intro reverse
  have less := (iff_of_first greater.ne fun earlier less => (before earlier less).symm).mp reverse
  omega

theorem trans (left : Outranks first second) (right : Outranks second third) :
    Outranks first third := by
  obtain ⟨leftPlace, leftGreater, leftBefore⟩ := left
  obtain ⟨rightPlace, rightGreater, rightBefore⟩ := right
  rcases Nat.lt_trichotomy leftPlace rightPlace with less | rfl | more
  · exact ⟨leftPlace, rightBefore leftPlace less ▸ leftGreater, fun earlier early =>
      (leftBefore earlier early).trans (rightBefore earlier (early.trans less))⟩
  · exact ⟨leftPlace, rightGreater.trans leftGreater, fun earlier early =>
      (leftBefore earlier early).trans (rightBefore earlier early)⟩
  · exact ⟨rightPlace, (leftBefore rightPlace more).symm ▸ rightGreater, fun earlier early =>
      (leftBefore earlier (early.trans more)).trans (rightBefore earlier early)⟩

theorem total (first second : Nat → Nat) :
    first = second ∨ Outranks first second ∨ Outranks second first := by
  by_cases same : first = second
  · exact .inl same
  · obtain ⟨place, apart, before⟩ := exists_first same
    rcases Nat.lt_or_gt_of_ne apart with less | greater
    · exact .inr (.inr ⟨place, less, fun earlier early => (before earlier early).symm⟩)
    · exact .inr (.inl ⟨place, greater, before⟩)

end Outranks

/-- The numbers of a list, and zeros after them. -/
def padded (numbers : List Nat) (place : Nat) : Nat := numbers.getD place 0

theorem padded_rightpad (numbers : List Nat) (width : Nat) :
    padded (numbers.rightpad width 0) = padded numbers := by
  funext place
  simp only [padded, List.rightpad, List.getD_eq_getElem?_getD, List.getElem?_append,
    List.getElem?_replicate]
  split
  · rfl
  · rename_i beyond
    rw [List.getElem?_eq_none (by omega)]
    split <;> rfl

/-- Lists of one length compare as their sequences do. -/
theorem lt_iff_outranks {first second : List Nat} (length : first.length = second.length) :
    second < first ↔ Outranks (padded first) (padded second) := by
  have at_place : ∀ {numbers : List Nat} {place : Nat} (within : place < numbers.length),
      padded numbers place = numbers[place] := by
    intro numbers place within
    rw [padded, List.getD_eq_getElem _ _ within]
  rw [List.lt_iff_exists]
  constructor
  · rintro (⟨_, shorter⟩ | ⟨place, left, right, before, less⟩)
    · omega
    · refine ⟨place, by rwa [at_place left, at_place right], fun earlier early => ?_⟩
      rw [at_place (early.trans left), at_place (early.trans right)]
      exact (before earlier early).symm
  · rintro ⟨place, greater, before⟩
    have within : place < first.length := by
      by_contra beyond
      rw [padded, padded, List.getD_eq_default first _ (by omega)] at greater
      exact Nat.not_lt_zero _ greater
    refine .inr ⟨place, length ▸ within, within, fun earlier early => ?_, ?_⟩
    · rw [← at_place, ← at_place]
      exact (before earlier early).symm
    · rwa [← at_place, ← at_place]

end LayoutAdblock.Data
