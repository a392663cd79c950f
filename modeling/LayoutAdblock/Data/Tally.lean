import Mathlib.Data.List.AList

namespace LayoutAdblock.Data

/-! # Counting the keys of a map -/

variable {α : Type} {β : α → Type}

/-- Two lists without duplicates have as many members of a kind as soon as they
have the same ones. -/
theorem countP_eq_of_mem_iff {first second : List α} {p q : α → Bool} (firstNodup : first.Nodup)
    (secondNodup : second.Nodup)
    (same : ∀ key, key ∈ first ∧ p key = true ↔ key ∈ second ∧ q key = true) :
    first.countP p = second.countP q := by
  rw [List.countP_eq_length_filter, List.countP_eq_length_filter]
  have equal : (first.filter p).Perm (second.filter q) := by
    rw [List.perm_ext_iff_of_nodup (firstNodup.filter p) (secondNodup.filter q)]
    intro key
    rw [List.mem_filter, List.mem_filter]
    exact same key
  exact equal.length_eq

variable [DecidableEq α]

/-- Counting entries is counting the keys whose entry passes. -/
theorem countP_entries (map : AList β) (test : (key : α) → β key → Bool) :
    map.entries.countP (fun entry => test entry.1 entry.2) =
      map.keys.countP fun key => (map.lookup key).any (test key) := by
  rw [AList.keys, List.keys, List.countP_map]
  apply List.countP_congr
  intro entry member
  have found : map.lookup entry.1 = some entry.2 := AList.mem_lookup_iff.mpr member
  rw [Function.comp_apply, found, Option.any_some]

/-- The entries of a map whose keys are kept. -/
theorem lookup_filter_keys (map : AList β) (kept : α → Bool)
    (nodup : (map.entries.filter fun entry => kept entry.1).NodupKeys) (key : α) :
    AList.lookup key
        { entries := map.entries.filter fun entry => kept entry.1, nodupKeys := nodup } =
      if kept key then map.lookup key else none := by
  apply Option.ext
  intro value
  rw [← Option.mem_def, AList.mem_lookup_iff, List.mem_filter]
  cases keeps : kept key with
  | true =>
      rw [if_pos rfl, ← Option.mem_def, AList.mem_lookup_iff]
      exact and_iff_left rfl
  | false => simp

end LayoutAdblock.Data
