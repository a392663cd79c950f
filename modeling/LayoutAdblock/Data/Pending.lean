import Mathlib.Algebra.BigOperators.Group.List.Basic
import Mathlib.Algebra.Ring.Nat
import Mathlib.Data.List.Perm.Subperm

namespace LayoutAdblock.Data

/-! # What a search has left

A search over the items of a list marks the ones it has visited.  The total
weight of those it has not visited bounds the steps it has left.
-/

variable {α : Type*} [DecidableEq α]

/-- The weight of the items that have not been visited yet, which every visit makes smaller. -/
def pending (weight : α → Nat) (items visited : List α) : Nat :=
  ((items.filter fun item => decide (item ∉ visited)).map weight).sum

theorem pending_cons (weight : α → Nat) (head : α) (rest visited : List α) :
    pending weight (head :: rest) visited =
      (if head ∈ visited then 0 else weight head) + pending weight rest visited := by
  unfold pending
  by_cases seen : head ∈ visited
  · simp [seen]
  · simp [seen]

theorem pending_antitone (weight : α → Nat) (items : List α) {first second : List α}
    (grown : ∀ item ∈ first, item ∈ second) :
    pending weight items second ≤ pending weight items first := by
  induction items with
  | nil => exact Nat.le_refl _
  | cons head rest ih =>
      rw [pending_cons, pending_cons]
      by_cases seen : head ∈ first
      · simp only [seen, grown head seen, if_true]
        omega
      · simp only [seen, if_false]
        split <;> omega

/-- Visiting an item takes its weight off. -/
theorem pending_visit (weight : α → Nat) {items visited : List α} {item : α}
    (member : item ∈ items) (fresh : item ∉ visited) :
    pending weight items (item :: visited) + weight item ≤ pending weight items visited := by
  induction items with
  | nil => cases member
  | cons head rest ih =>
      rw [pending_cons, pending_cons]
      by_cases same : head = item
      · subst same
        have later := pending_antitone weight rest
          (fun other (seen : other ∈ visited) => List.mem_cons_of_mem head seen)
        simp only [List.mem_cons_self, fresh, if_true, if_false]
        omega
      · have below := ih ((List.mem_cons.mp member).resolve_left (Ne.symm same))
        simp only [List.mem_cons, same, false_or]
        split <;> omega

theorem pending_one_le (items visited : List α) :
    pending (fun _ => 1) items visited ≤ items.length := by
  induction items with
  | nil => exact Nat.le_refl _
  | cons head rest ih =>
      rw [pending_cons, List.length_cons]
      split <;> omega

omit [DecidableEq α] in
/-- A part of a list that holds all its items of one kind agrees with it on them. -/
theorem filter_of_sublist {part whole : List α} {kind : α → Bool} (within : part.Sublist whole)
    (nodup : whole.Nodup) (holds : ∀ item ∈ whole, kind item = true → item ∈ part) :
    part.filter kind = whole.filter kind := by
  apply (within.filter kind).eq_of_length_le
  apply List.Subperm.length_le
  apply List.subperm_of_subset (nodup.filter kind)
  intro item member
  obtain ⟨inWhole, kept⟩ := List.mem_filter.mp member
  exact List.mem_filter.mpr ⟨holds item inWhole kept, kept⟩

end LayoutAdblock.Data
