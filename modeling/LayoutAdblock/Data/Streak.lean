import Mathlib.Data.List.Induction

namespace LayoutAdblock.Data

/-! # Streaks

The length of the run of passing values at the end of a history, as a counter
computes it: one more for a value that passes, zero for one that does not.
-/

variable {α : Type*}

/-- How many values at the end of a history pass the test in a row. -/
def trailingRun (test : α → Bool) (history : List α) : Nat :=
  history.foldl (fun run value => if test value then run + 1 else 0) 0

@[simp] theorem trailingRun_nil (test : α → Bool) : trailingRun test [] = 0 := rfl

theorem trailingRun_concat (test : α → Bool) (history : List α) (value : α) :
    trailingRun test (history ++ [value]) =
      if test value then trailingRun test history + 1 else 0 := by
  simp [trailingRun]

/-- A streak of at least `count` means that the last `count` values all passed. -/
theorem le_trailingRun_iff (test : α → Bool) (history : List α) (count : Nat) :
    count ≤ trailingRun test history ↔
      count ≤ history.length ∧
        ∀ value ∈ history.drop (history.length - count), test value = true := by
  induction history using List.reverseRecOn generalizing count with
  | nil => simp
  | append_singleton history value ih =>
      cases count with
      | zero => simp
      | succ count =>
          have split : (history ++ [value]).drop ((history ++ [value]).length - (count + 1)) =
              history.drop (history.length - count) ++ [value] := by
            have length : (history ++ [value]).length - (count + 1) = history.length - count := by
              simp
            rw [length, List.drop_append_of_le_length (Nat.sub_le ..)]
          rw [trailingRun_concat, split]
          cases passed : test value with
          | false => simp [passed]
          | true =>
              simp only [if_true, Nat.add_le_add_iff_right, ih, List.length_append,
                List.length_singleton, List.mem_append, List.mem_singleton]
              refine and_congr_right fun _ => ?_
              constructor
              · rintro all other (early | rfl)
                · exact all other early
                · exact passed
              · intro all other early
                exact all other (Or.inl early)

end LayoutAdblock.Data
