import Mathlib.Data.List.Forall2

namespace LayoutAdblock.Data.PrefixCode

/-! # Printing that can be told apart

A printed value is told apart when the text it starts shows which value it is
and where its own text ends.  Terminated and separated lists of such values are
told apart again.
-/

variable {α σ : Type}

/-- Texts that start with what was printed for this value, and go on with a rest
that may follow, were printed for the same value. -/
def Told (follow : List σ → Prop) (allowed : α → Prop) (same : α → α → Prop)
    (print : α → List σ) (value : α) : Prop :=
  ∀ ⦃other left right⦄, allowed other → follow left → follow right →
    print value ++ left = print other ++ right → same value other ∧ left = right

/-- No symbol of the run goes on into the rest. -/
def Ends (run : σ → Bool) (rest : List σ) : Prop := ∀ head ∈ rest.head?, run head = false

@[simp] theorem ends_nil (run : σ → Bool) : Ends run [] := by
  simp [Ends]

@[simp] theorem ends_cons {run : σ → Bool} {head : σ} {rest : List σ} :
    Ends run (head :: rest) ↔ run head = false := by
  simp [Ends]

/-- A run of symbols that ends shows its length. -/
theorem run_told {run : σ → Bool} {first second left right : List σ}
    (firstRuns : ∀ symbol ∈ first, run symbol) (secondRuns : ∀ symbol ∈ second, run symbol)
    (leftEnds : Ends run left) (rightEnds : Ends run right)
    (same : first ++ left = second ++ right) : first = second ∧ left = right := by
  induction first generalizing second with
  | nil =>
      cases second with
      | nil => exact ⟨rfl, same⟩
      | cons head rest =>
          rw [List.nil_append] at same
          subst same
          have goesOn : run head = true := secondRuns head List.mem_cons_self
          rw [List.cons_append, ends_cons, goesOn] at leftEnds
          exact absurd leftEnds (by decide)
  | cons symbol others ih =>
      cases second with
      | nil =>
          rw [List.nil_append] at same
          subst same
          have goesOn : run symbol = true := firstRuns symbol List.mem_cons_self
          rw [List.cons_append, ends_cons, goesOn] at rightEnds
          exact absurd rightEnds (by decide)
      | cons head rest =>
          simp only [List.cons_append, List.cons.injEq] at same
          obtain ⟨rfl, same⟩ := same
          obtain ⟨rfl, rests⟩ := ih
            (fun next member => firstRuns next (List.mem_cons_of_mem _ member))
            (fun next member => secondRuns next (List.mem_cons_of_mem _ member)) same
          exact ⟨rfl, rests⟩

/-- What is printed is not empty and does not start with the closing symbol. -/
def Opens (close : σ) (text : List σ) : Prop := ∃ head rest, text = head :: rest ∧ head ≠ close

theorem Opens.apart {close : σ} {text rest left : List σ} (opens : Opens close text) :
    text ++ rest ≠ close :: left := by
  obtain ⟨head, others, rfl, apart⟩ := opens
  rintro same
  exact apart (List.cons.inj same).1

section Terminated

variable {allowed : α → Prop} {same : α → α → Prop} {print : α → List σ} {close : σ}

/-- A terminated list of values that are told apart whatever follows. -/
theorem terminated_told (opens : ∀ value, allowed value → Opens close (print value))
    {items others : List α} {left right : List σ}
    (told : ∀ item ∈ items, Told (fun _ => True) allowed same print item)
    (itemsAllowed : ∀ item ∈ items, allowed item) (othersAllowed : ∀ other ∈ others, allowed other)
    (texts : items.flatMap print ++ close :: left = others.flatMap print ++ close :: right) :
    List.Forall₂ same items others ∧ left = right := by
  induction items generalizing others with
  | nil =>
      cases others with
      | nil => simpa using texts
      | cons other rest =>
          rw [List.flatMap_nil, List.nil_append, List.flatMap_cons, List.append_assoc] at texts
          exact absurd texts.symm (opens other (othersAllowed other List.mem_cons_self)).apart
  | cons item rest ih =>
      cases others with
      | nil =>
          rw [List.flatMap_nil, List.nil_append, List.flatMap_cons, List.append_assoc] at texts
          exact absurd texts (opens item (itemsAllowed item List.mem_cons_self)).apart
      | cons other more =>
          simp only [List.flatMap_cons, List.append_assoc] at texts
          obtain ⟨alike, texts⟩ := told item List.mem_cons_self
            (othersAllowed other List.mem_cons_self) trivial trivial texts
          obtain ⟨pairs, rests⟩ := ih
            (fun next member => told next (List.mem_cons_of_mem _ member))
            (fun next member => itemsAllowed next (List.mem_cons_of_mem _ member))
            (fun next member => othersAllowed next (List.mem_cons_of_mem _ member)) texts
          exact ⟨.cons alike pairs, rests⟩

end Terminated

section Separated

variable {follow : List σ → Prop} {allowed : α → Prop} {same : α → α → Prop}
  {print : α → List σ} {separator close : σ}

/-- The items after the first, each behind a separator. -/
def tailText (separator close : σ) (print : α → List σ) : List α → List σ
  | [] => [close]
  | item :: rest => separator :: print item ++ tailText separator close print rest

theorem intercalate_tailText (item : α) (rest : List α) (after : List σ) :
    [separator].intercalate ((item :: rest).map print) ++ close :: after =
      print item ++ (tailText separator close print rest ++ after) := by
  induction rest generalizing item with
  | nil => simp [tailText]
  | cons next others ih =>
      rw [List.map_cons, List.map_cons, List.intercalate_cons_cons, List.append_assoc,
        List.append_assoc, ← List.map_cons, ih next]
      simp [tailText]

theorem tailText_told (apart : separator ≠ close)
    (separatorFollows : ∀ rest, follow (separator :: rest))
    (closeFollows : ∀ rest, follow (close :: rest)) {items others : List α} {left right : List σ}
    (told : ∀ item ∈ items, Told follow allowed same print item)
    (othersAllowed : ∀ other ∈ others, allowed other)
    (texts : tailText separator close print items ++ left =
      tailText separator close print others ++ right) :
    List.Forall₂ same items others ∧ left = right := by
  have follows : ∀ rest after, follow (tailText separator close print rest ++ after) := by
    intro rest after
    cases rest with
    | nil => exact closeFollows _
    | cons item rest => exact separatorFollows _
  induction items generalizing others with
  | nil =>
      cases others with
      | nil => simpa [tailText] using texts
      | cons other rest =>
          simp only [tailText, List.cons_append, List.cons.injEq] at texts
          exact absurd texts.1.symm apart
  | cons item rest ih =>
      cases others with
      | nil =>
          simp only [tailText, List.cons_append, List.cons.injEq] at texts
          exact absurd texts.1 apart
      | cons other more =>
          simp only [tailText, List.cons_append, List.cons.injEq, List.append_assoc, true_and]
            at texts
          obtain ⟨alike, texts⟩ := told item List.mem_cons_self
            (othersAllowed other List.mem_cons_self) (follows rest left) (follows more right) texts
          obtain ⟨pairs, rests⟩ := ih
            (fun next member => told next (List.mem_cons_of_mem _ member))
            (fun next member => othersAllowed next (List.mem_cons_of_mem _ member)) texts
          exact ⟨.cons alike pairs, rests⟩

/-- A separated and closed list of values that are told apart in front of the
separator and of the closing symbol. -/
theorem separated_told (apart : separator ≠ close)
    (separatorFollows : ∀ rest, follow (separator :: rest))
    (closeFollows : ∀ rest, follow (close :: rest))
    (opens : ∀ value, allowed value → Opens close (print value))
    {items others : List α} {left right : List σ}
    (told : ∀ item ∈ items, Told follow allowed same print item)
    (itemsAllowed : ∀ item ∈ items, allowed item) (othersAllowed : ∀ other ∈ others, allowed other)
    (texts : [separator].intercalate (items.map print) ++ close :: left =
      [separator].intercalate (others.map print) ++ close :: right) :
    List.Forall₂ same items others ∧ left = right := by
  cases items with
  | nil =>
      cases others with
      | nil => simpa using texts
      | cons other rest =>
          rw [intercalate_tailText] at texts
          exact absurd texts.symm (opens other (othersAllowed other List.mem_cons_self)).apart
  | cons item rest =>
      cases others with
      | nil =>
          rw [intercalate_tailText] at texts
          exact absurd texts (opens item (itemsAllowed item List.mem_cons_self)).apart
      | cons other more =>
          rw [intercalate_tailText, intercalate_tailText] at texts
          -- behind a separator the two lists are tails
          have tails : tailText separator close print (item :: rest) ++ left =
              tailText separator close print (other :: more) ++ right := by
            simpa [tailText] using texts
          exact tailText_told apart separatorFollows closeFollows told othersAllowed tails

end Separated

end LayoutAdblock.Data.PrefixCode
