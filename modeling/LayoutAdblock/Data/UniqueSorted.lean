import Mathlib.Data.List.Sort
import Mathlib.Data.List.NodupEquivFin

namespace LayoutAdblock.Data

/-! # Sorted lists without repetitions

`uniqueSorted` is the canonical list of a finite collection: it sorts and then
drops every value equal to its predecessor.  Two collections with the same
members have the same canonical list, which is what makes a log of repeated
entries comparable with a set.
-/

variable {α : Type*} [LinearOrder α]

def dedupAdjacent : List α → List α
  | [] => []
  | [value] => [value]
  | first :: second :: rest =>
      if first = second then dedupAdjacent (second :: rest)
      else first :: dedupAdjacent (second :: rest)

def uniqueSorted (values : List α) : List α :=
  dedupAdjacent (values.insertionSort (· ≤ ·))

@[simp] theorem mem_dedupAdjacent (values : List α) (value : α) :
    value ∈ dedupAdjacent values ↔ value ∈ values := by
  induction values using dedupAdjacent.induct with
  | case1 => simp [dedupAdjacent]
  | case2 only => simp [dedupAdjacent]
  | case3 second rest ih => simp [dedupAdjacent, ih]
  | case4 first second rest different ih => simp [dedupAdjacent, different, ih]

@[simp] theorem mem_uniqueSorted {values : List α} {value : α} :
    value ∈ uniqueSorted values ↔ value ∈ values := by
  simp [uniqueSorted]

theorem dedupAdjacent_pairwise_lt {values : List α} (sorted : values.Pairwise (· ≤ ·)) :
    (dedupAdjacent values).Pairwise (· < ·) := by
  induction values using dedupAdjacent.induct with
  | case1 => exact List.Pairwise.nil
  | case2 only => exact List.pairwise_singleton _ _
  | case3 second rest ih =>
      simpa [dedupAdjacent] using ih (List.pairwise_cons.mp sorted).2
  | case4 first second rest different ih =>
      obtain ⟨below, tail⟩ := List.pairwise_cons.mp sorted
      simp only [dedupAdjacent, if_neg different]
      refine List.pairwise_cons.mpr ⟨?_, ih tail⟩
      intro value member
      have listed : value ∈ second :: rest := (mem_dedupAdjacent _ _).mp member
      have firstSecond : first < second :=
        lt_of_le_of_ne (below second (List.mem_cons_self ..)) different
      rcases List.mem_cons.mp listed with rfl | later
      · exact firstSecond
      · exact lt_of_lt_of_le firstSecond ((List.pairwise_cons.mp tail).1 value later)

theorem uniqueSorted_pairwise_lt (values : List α) :
    (uniqueSorted values).Pairwise (· < ·) :=
  dedupAdjacent_pairwise_lt (List.pairwise_insertionSort (· ≤ ·) values)

/-- The canonical list depends on the members only. -/
theorem uniqueSorted_congr {left right : List α}
    (same : ∀ value, value ∈ left ↔ value ∈ right) :
    uniqueSorted left = uniqueSorted right := by
  have leftSorted := uniqueSorted_pairwise_lt left
  have rightSorted := uniqueSorted_pairwise_lt right
  have perm : (uniqueSorted left).Perm (uniqueSorted right) := by
    rw [List.perm_ext_iff_of_nodup (leftSorted.imp fun below => ne_of_lt below)
      (rightSorted.imp fun below => ne_of_lt below)]
    intro value
    simp [same value]
  exact perm.eq_of_pairwise (fun _ _ _ _ below above => absurd below (lt_asymm above))
    leftSorted rightSorted

end LayoutAdblock.Data
