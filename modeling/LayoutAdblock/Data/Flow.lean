import Mathlib.Data.List.Basic

namespace LayoutAdblock.Data

/-! # What flows through a run

Every step of a run puts something into what the state holds, and lets something
go.  A step that also loses something can be told by the balance of the lengths.
-/

variable {S I β : Type*} {next : S → I → S}

/-- What the steps of a run contribute, one after the other. -/
def along (next : S → I → S) (share : S → I → List β) : S → List I → List β
  | _, [] => []
  | state, step :: rest => share state step ++ along next share (next state step) rest

/-- Every step of a run meets a condition on the state it is taken in. -/
def Throughout (next : S → I → S) (meets : S → I → Prop) : S → List I → Prop
  | _, [] => True
  | state, step :: rest => meets state step ∧ Throughout next meets (next state step) rest

theorem Throughout.imp {meets weaker : S → I → Prop} {invariant : S → Prop}
    (preserved : ∀ state step, invariant state → invariant (next state step))
    (implies : ∀ state step, invariant state → meets state step → weaker state step)
    {state : S} {steps : List I} (start : invariant state)
    (met : Throughout next meets state steps) : Throughout next weaker state steps := by
  induction steps generalizing state with
  | nil => trivial
  | cons step rest ih =>
      exact ⟨implies state step start met.1, ih (preserved state step start) met.2⟩

theorem foldl_invariant {invariant : S → Prop}
    (preserved : ∀ state step, invariant state → invariant (next state step))
    {state : S} (start : invariant state) (steps : List I) :
    invariant (steps.foldl next state) := by
  induction steps generalizing state with
  | nil => exact start
  | cons step rest ih => exact ih (preserved state step start)

theorem along_eq_nil_iff {share : S → I → List β} {state : S} {steps : List I} :
    along next share state steps = [] ↔
      Throughout next (fun state step => share state step = []) state steps := by
  induction steps generalizing state with
  | nil => simp [along, Throughout]
  | cons step rest ih => rw [along, List.append_eq_nil_iff, ih, Throughout]

section Conservation

variable {held : S → List β} {put gone lost : S → I → List β} {invariant : S → Prop}

theorem along_conserved
    (preserved : ∀ state step, invariant state → invariant (next state step))
    (whole : ∀ state step, invariant state → lost state step = [] →
      gone state step ++ held (next state step) = held state ++ put state step)
    {state : S} {steps : List I} (start : invariant state)
    (kept : Throughout next (fun state step => lost state step = []) state steps) :
    along next gone state steps ++ held (steps.foldl next state) =
      held state ++ along next put state steps := by
  induction steps generalizing state with
  | nil => simp [along]
  | cons step rest ih =>
      rw [along, along, List.foldl_cons, List.append_assoc,
        ih (preserved state step start) kept.2, ← List.append_assoc,
        whole state step start kept.1, List.append_assoc]

theorem along_balance
    (preserved : ∀ state step, invariant state → invariant (next state step))
    (balance : ∀ state step, invariant state →
      (gone state step).length + (held (next state step)).length + (lost state step).length =
        (held state).length + (put state step).length)
    {state : S} (start : invariant state) (steps : List I) :
    (along next gone state steps).length + (held (steps.foldl next state)).length +
        (along next lost state steps).length =
      (held state).length + (along next put state steps).length := by
  induction steps generalizing state with
  | nil => simp [along]
  | cons step rest ih =>
      have here := balance state step start
      have later := ih (preserved state step start)
      simp only [along, List.length_append, List.foldl_cons] at here later ⊢
      omega

/-- A run keeps what it holds and is given, but for what it lets go, exactly when no
step loses anything. -/
theorem along_conserved_iff
    (preserved : ∀ state step, invariant state → invariant (next state step))
    (balance : ∀ state step, invariant state →
      (gone state step).length + (held (next state step)).length + (lost state step).length =
        (held state).length + (put state step).length)
    (whole : ∀ state step, invariant state → lost state step = [] →
      gone state step ++ held (next state step) = held state ++ put state step)
    {state : S} (start : invariant state) (steps : List I) :
    along next gone state steps ++ held (steps.foldl next state) =
        held state ++ along next put state steps ↔
      Throughout next (fun state step => lost state step = []) state steps := by
  constructor
  · intro same
    have lengths := congrArg List.length same
    have total := along_balance preserved balance start steps
    rw [List.length_append, List.length_append] at lengths
    refine along_eq_nil_iff.mp (List.eq_nil_of_length_eq_zero ?_)
    omega
  · exact along_conserved preserved whole start

end Conservation

end LayoutAdblock.Data
