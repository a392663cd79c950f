import Mathlib.Data.List.Forall2

namespace LayoutAdblock.Data

/-! # Effects of loops

A loop body whose effect on the state is described by two lists of outputs has,
over a whole list of items, the effect described by the outputs of all items.
-/

variable {σ α β γ : Type*}

/-- Effects that compose by appending their two lists of outputs, and an empty run has the
effect with no output. -/
structure Composes (Effect : σ → List β → List γ → σ → Prop) : Prop where
  refl : ∀ state, Effect state [] [] state
  trans : ∀ {before middle after first second firstRest secondRest},
    Effect before first firstRest middle → Effect middle second secondRest after →
      Effect before (first ++ second) (firstRest ++ secondRest) after

theorem Composes.foldl {Effect : σ → List β → List γ → σ → Prop} (composes : Composes Effect)
    {step : σ → α → σ} {first : α → List β} {second : α → List γ} {items : List α}
    (body : ∀ item ∈ items, ∀ state,
      Effect state (first item) (second item) (step state item)) (state : σ) :
    Effect state (items.flatMap first) (items.flatMap second) (items.foldl step state) := by
  induction items generalizing state with
  | nil => exact composes.refl state
  | cons head rest ih =>
      have atHead := body head (List.mem_cons_self ..) state
      have later := ih (fun item member => body item (List.mem_cons_of_mem head member))
        (step state head)
      simpa using composes.trans atHead later

theorem flatMap_nothing (items : List α) : items.flatMap (fun _ => ([] : List β)) = [] := by
  simp

/-- Loops over the same items whose bodies emit related outputs emit related
outputs. -/
theorem forall₂_flatMap {Related : β → γ → Prop} {left : α → List β} {right : α → List γ}
    {items : List α} (body : ∀ item ∈ items, List.Forall₂ Related (left item) (right item)) :
    List.Forall₂ Related (items.flatMap left) (items.flatMap right) := by
  induction items with
  | nil => exact List.Forall₂.nil
  | cons head rest ih =>
      simp only [List.flatMap_cons]
      exact List.rel_append (body head (List.mem_cons_self ..))
        (ih fun item member => body item (List.mem_cons_of_mem head member))

end LayoutAdblock.Data
