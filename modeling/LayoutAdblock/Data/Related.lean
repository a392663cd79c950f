import Mathlib.Data.List.Forall2

namespace LayoutAdblock.Data

/-! # Lists of related items

What a pass over a list keeps, gathers or finds in a list of related items.
-/

variable {α β γ : Type*} {Related : α → β → Prop} {items : List α} {others : List β}

theorem map_filter_related (related : List.Forall₂ Related items others)
    {keep : α → Bool} {keepOther : β → Bool} {output : α → γ} {outputOther : β → γ}
    (kept : ∀ item other, Related item other → keepOther other = keep item)
    (same : ∀ item other, Related item other → outputOther other = output item) :
    (others.filter keepOther).map outputOther = (items.filter keep).map output := by
  induction related with
  | nil => rfl
  | cons head _ ih =>
      simp only [List.filter_cons, kept _ _ head]
      split
      · simp only [List.map_cons, ih, same _ _ head]
      · exact ih

theorem filterMap_related (related : List.Forall₂ Related items others)
    {output : α → Option γ} {outputOther : β → Option γ}
    (same : ∀ item other, Related item other → outputOther other = output item) :
    others.filterMap outputOther = items.filterMap output := by
  induction related with
  | nil => rfl
  | cons head _ ih => simp only [List.filterMap_cons, same _ _ head, ih]

theorem foldl_related (related : List.Forall₂ Related items others)
    {step : γ → α → γ} {stepOther : γ → β → γ}
    (same : ∀ state item other, Related item other → stepOther state other = step state item)
    (state : γ) : others.foldl stepOther state = items.foldl step state := by
  induction related generalizing state with
  | nil => rfl
  | cons head _ ih => simp only [List.foldl_cons, same _ _ _ head, ih]

theorem exists_related (related : List.Forall₂ Related items others) {item : α}
    (member : item ∈ items) : ∃ other ∈ others, Related item other := by
  induction related with
  | nil => cases member
  | cons head _ ih =>
      cases List.mem_cons.mp member with
      | inl same => exact ⟨_, List.mem_cons_self .., same ▸ head⟩
      | inr later =>
          obtain ⟨other, inRest, here⟩ := ih later
          exact ⟨other, List.mem_cons_of_mem _ inRest, here⟩

/-- A test passes somewhere in a list, whatever the order. -/
theorem any_of_perm {first second : List α} {test testOther : α → Bool}
    (perm : second.Perm first) (same : ∀ item ∈ first, testOther item = test item) :
    second.any testOther = first.any test := by
  rw [perm.any_eq]
  induction first generalizing second with
  | nil => rfl
  | cons head rest ih =>
      simp only [List.any_cons, same head (List.mem_cons_self ..)]
      rw [ih (List.Perm.refl rest) fun item member => same item (List.mem_cons_of_mem head member)]

end LayoutAdblock.Data
