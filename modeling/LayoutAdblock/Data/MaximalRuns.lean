import Mathlib.Data.List.Infix

namespace LayoutAdblock.Data

/-! # Maximal runs

A scanner collects the items that a test accepts and emits what it has collected
at each item the test refuses, and at the end.
-/

variable {α : Type*} {test : α → Bool} {run current rest : List α} {item : α}

/-- The scanner, with the run it has collected so far. -/
def runsFrom (test : α → Bool) (current : List α) : List α → List (List α)
  | [] => if current.isEmpty then [] else [current]
  | item :: rest =>
      if test item then runsFrom test (current ++ [item]) rest
      else if current.isEmpty then runsFrom test [] rest
      else current :: runsFrom test [] rest

/-- A nonempty stretch of accepted items that neither neighbour could extend. -/
def MaximalRun (test : α → Bool) (run items : List α) : Prop :=
  run ≠ [] ∧ (∀ item ∈ run, test item = true) ∧
    ∃ before after, items = before ++ run ++ after ∧
      (∀ item ∈ before.getLast?, test item = false) ∧ ∀ item ∈ after.head?, test item = false

/-- What ends refused and holds only accepted items is empty. -/
theorem eq_nil_of_last_refused {items : List α} (accepted : ∀ item ∈ items, test item = true)
    (refused : ∀ item ∈ items.getLast?, test item = false) : items = [] := by
  cases last : items.getLast? with
  | none => exact List.getLast?_eq_none_iff.mp last
  | some item =>
      have accepts := accepted item (List.mem_of_getLast? last)
      rw [refused item last] at accepts
      cases accepts

theorem eq_nil_of_head_refused {items : List α} (accepted : ∀ item ∈ items, test item = true)
    (refused : ∀ item ∈ items.head?, test item = false) : items = [] := by
  cases items with
  | nil => rfl
  | cons head tail =>
      have accepts := accepted head List.mem_cons_self
      rw [refused head rfl] at accepts
      cases accepts

/-- Accepted items have one maximal run, which is all of them. -/
theorem maximalRun_accepted (accepted : ∀ item ∈ current, test item = true) :
    MaximalRun test run current ↔ current ≠ [] ∧ run = current := by
  constructor
  · intro maximal
    obtain ⟨nonempty, _, before, after, same, starts, ends⟩ := maximal
    have inside : ∀ item ∈ before ++ run ++ after, test item = true := same ▸ accepted
    have noBefore : before = [] := by
      refine eq_nil_of_last_refused (fun item member => inside item ?_) starts
      exact List.mem_append_left _ (List.mem_append_left _ member)
    have noAfter : after = [] := by
      refine eq_nil_of_head_refused (fun item member => inside item ?_) ends
      exact List.mem_append_right _ member
    rw [noBefore, noAfter, List.nil_append, List.append_nil] at same
    exact ⟨same ▸ nonempty, same.symm⟩
  · intro whole
    obtain ⟨nonempty, rfl⟩ := whole
    exact ⟨nonempty, accepted, [], [], by simp, by simp, by simp⟩

theorem refused_not_mem {items : List α} (accepted : ∀ other ∈ items, test other = true)
    (refused : test item = false) : item ∉ items := by
  intro member
  rw [accepted item member] at refused
  cases refused

/-- A run that starts with what was collected ends before the refused item. -/
theorem collected_of_append {after : List α} (accepted : ∀ other ∈ current, test other = true)
    (refused : test item = false) (accepts : ∀ other ∈ run, test other = true)
    (ends : ∀ other ∈ after.head?, test other = false)
    (same : run ++ after = current ++ item :: rest) : run = current := by
  cases List.append_eq_append_iff.mp same with
  | inl shorter =>
      obtain ⟨left, split, tail⟩ := shorter
      have noLeft : left = [] := by
        refine eq_nil_of_head_refused (fun other member => accepted other ?_) ?_
        · rw [split]
          exact List.mem_append_right _ member
        · intro other first
          apply ends
          rw [tail]
          cases left with
          | nil => cases first
          | cons head others => exact first
      rw [split, noLeft, List.append_nil]
  | inr longer =>
      obtain ⟨left, split, tail⟩ := longer
      cases left with
      | nil => rw [split, List.append_nil]
      | cons head others =>
          obtain ⟨rfl, _⟩ := List.cons.inj tail
          rw [split] at accepts
          exact absurd (List.mem_append_right _ List.mem_cons_self)
            (refused_not_mem accepts refused)

theorem MaximalRun.collected (nonempty : current ≠ [])
    (accepted : ∀ other ∈ current, test other = true) (refused : test item = false) :
    MaximalRun test current (current ++ item :: rest) := by
  refine ⟨nonempty, accepted, [], item :: rest, by simp, by simp, ?_⟩
  intro other first
  obtain rfl := Option.some.inj first
  exact refused

theorem MaximalRun.later (maximal : MaximalRun test run rest) (refused : test item = false) :
    MaximalRun test run (current ++ item :: rest) := by
  obtain ⟨nonempty, accepts, before, after, rfl, starts, ends⟩ := maximal
  refine ⟨nonempty, accepts, current ++ item :: before, after, by simp, ?_, ends⟩
  intro other last
  cases before with
  | nil =>
      have isItem : item = other := by simpa using last
      exact isItem ▸ refused
  | cons first others => exact starts other (by simpa using last)

/-- A refused item ends the run before it. -/
theorem maximalRun_split (accepted : ∀ other ∈ current, test other = true)
    (refused : test item = false) :
    MaximalRun test run (current ++ item :: rest) ↔
      (current ≠ [] ∧ run = current) ∨ MaximalRun test run rest := by
  constructor
  · intro maximal
    obtain ⟨nonempty, accepts, before, after, same, starts, ends⟩ := maximal
    rw [List.append_assoc] at same
    cases List.append_eq_append_iff.mp same with
    | inl behind =>
        obtain ⟨between, split, follows⟩ := behind
        cases between with
        | nil =>
            cases run with
            | nil => exact absurd rfl nonempty
            | cons head tail =>
                obtain ⟨rfl, _⟩ := List.cons.inj follows
                exact absurd List.mem_cons_self (refused_not_mem accepts refused)
        | cons head between =>
            obtain ⟨rfl, tail⟩ := List.cons.inj follows
            refine Or.inr ⟨nonempty, accepts, between, after,
              tail.trans (List.append_assoc between run after).symm, ?_, ends⟩
            intro other last
            apply starts
            rw [split]
            cases between with
            | nil => cases last
            | cons first others => simpa using last
    | inr within =>
        -- Nothing refused lies before the run, so it starts with what was collected.
        obtain ⟨between, split, follows⟩ := within
        have noBefore : before = [] := by
          refine eq_nil_of_last_refused (fun other member => accepted other ?_) starts
          rw [split]
          exact List.mem_append_left _ member
        rw [noBefore, List.nil_append] at split
        have whole := collected_of_append accepted refused accepts ends (split ▸ follows)
        exact Or.inl ⟨whole ▸ nonempty, whole⟩
  · intro found
    cases found with
    | inl collected =>
        obtain ⟨nonempty, rfl⟩ := collected
        exact MaximalRun.collected nonempty accepted refused
    | inr maximal => exact maximal.later refused

theorem mem_runsFrom {items : List α} (accepted : ∀ item ∈ current, test item = true) :
    run ∈ runsFrom test current items ↔ MaximalRun test run (current ++ items) := by
  induction items generalizing current with
  | nil =>
      rw [List.append_nil, maximalRun_accepted accepted, runsFrom]
      cases current with
      | nil => simp
      | cons head tail => simp
  | cons item rest ih =>
      rw [runsFrom]
      cases tested : test item with
      | true =>
          have more : ∀ other ∈ current ++ [item], test other = true := by
            intro other member
            cases List.mem_append.mp member with
            | inl earlier => exact accepted other earlier
            | inr last => exact List.mem_singleton.mp last ▸ tested
          rw [if_pos rfl, ih more, List.append_assoc, List.singleton_append]
      | false =>
          have later := @ih [] (fun _ member => absurd member List.not_mem_nil)
          rw [List.nil_append] at later
          rw [maximalRun_split accepted tested, if_neg Bool.false_ne_true, ← later]
          cases current with
          | nil => simp
          | cons head tail => simp

/-- The scanner emits exactly the maximal runs. -/
theorem mem_runs {items : List α} :
    run ∈ runsFrom test [] items ↔ MaximalRun test run items :=
  mem_runsFrom fun _ member => absurd member List.not_mem_nil

end LayoutAdblock.Data
