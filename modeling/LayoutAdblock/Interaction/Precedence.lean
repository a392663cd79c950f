import LayoutAdblock.Interaction.Program

namespace LayoutAdblock.Interaction

/-! # The order of calls

Which calls come before which others on the paths through a program, and
programs whose calls are implemented by programs over other calls.
-/

namespace Program

variable {Op Low : Type} {Answer : Op → Type} {LowAnswer : Low → Type} {α β : Type}

/-- On the paths with usual answers a call of the first kind comes before any of
the second kind, or the program ends without either in a value of some kind. -/
def Before (usual : (op : Op) → Answer op → Prop) (first second : Op → Prop)
    (ends : α → Prop) : Program Op Answer α → Prop
  | done value => ends value
  | call op next => first op ∨
      ¬ second op ∧ ∀ answer, usual op answer → Before usual first second ends (next answer)

/-- After every call of some kind the rest of the program is of some kind, whatever the call
is answered. -/
def After (trigger : (op : Op) → Answer op → Prop) (later : Program Op Answer α → Prop) :
    Program Op Answer α → Prop
  | done _ => True
  | call op next => ∀ answer,
      (trigger op answer → later (next answer)) ∧ After trigger later (next answer)

def anyAnswer : (op : Op) → Answer op → Prop := fun _ _ => True

variable {usual : (op : Op) → Answer op → Prop} {first second : Op → Prop} {ends : α → Prop}
  {program : Program Op Answer α}

@[simp] theorem before_done {value : α} :
    (done value : Program Op Answer α).Before usual first second ends ↔ ends value := Iff.rfl

theorem Before.bind {middle : α → Prop} {ends : β → Prop} {rest : α → Program Op Answer β}
    (leads : program.Before usual first second middle)
    (follows : ∀ value, middle value → (rest value).Before usual first second ends) :
    (program >>= rest).Before usual first second ends := by
  induction program with
  | done value => exact follows value leads
  | call op next ih =>
      cases leads with
      | inl here => exact Or.inl here
      | inr later => exact Or.inr ⟨later.1, fun answer usual => ih answer (later.2 answer usual)⟩

/-- A program without calls of the second kind. -/
theorem Before.of_only (only : program.Only fun op => ¬ second op) :
    program.Before usual first second fun _ => True := by
  induction program with
  | done value => trivial
  | call op next ih => exact Or.inr ⟨only.1, fun answer _ => ih answer (only.2 answer)⟩

theorem Before.after_only {ends : β → Prop} {rest : α → Program Op Answer β}
    (only : program.Only fun op => ¬ second op)
    (leads : ∀ value, (rest value).Before usual first second ends) :
    (program >>= rest).Before usual first second ends :=
  (Before.of_only only).bind fun value _ => leads value

section After

variable {trigger : (op : Op) → Answer op → Prop} {later : Program Op Answer α → Prop}

theorem After.bind {laterRest : Program Op Answer β → Prop} {rest : α → Program Op Answer β}
    (each : program.After trigger later)
    (goes : ∀ left, later left → laterRest (left >>= rest))
    (follows : ∀ value, (rest value).After trigger laterRest) :
    (program >>= rest).After trigger laterRest := by
  induction program with
  | done value => exact follows value
  | call op next ih =>
      intro answer
      exact ⟨fun here => goes _ ((each answer).1 here), ih answer (each answer).2⟩

theorem After.of_only (only : program.Only fun op => ∀ answer, ¬ trigger op answer) :
    program.After trigger later := by
  induction program with
  | done value => trivial
  | call op next ih =>
      intro answer
      exact ⟨fun here => absurd here (only.1 answer), ih answer (only.2 answer)⟩

theorem After.of_only_bind {laterRest : Program Op Answer β → Prop}
    {rest : α → Program Op Answer β} (only : program.Only fun op => ∀ answer, ¬ trigger op answer)
    (follows : ∀ value, (rest value).After trigger laterRest) :
    (program >>= rest).After trigger laterRest := by
  have never : program.After trigger fun _ => False := After.of_only only
  exact never.bind (fun _ none => none.elim) follows

end After

/-- The calls that need a lock to be held, or not to be, find it so, and the
lock is given back in the end. -/
def Bracketed (needs changes : Op → Option Bool) : Bool → Program Op Answer α → Prop
  | held, done _ => held = false
  | held, call op next => (∀ need, needs op = some need → held = need) ∧
      ∀ answer, Bracketed needs changes ((changes op).getD held) (next answer)

theorem Bracketed.bind {needs changes : Op → Option Bool} {held : Bool}
    {rest : α → Program Op Answer β} (first : program.Bracketed needs changes held)
    (second : ∀ value, (rest value).Bracketed needs changes false) :
    (program >>= rest).Bracketed needs changes held := by
  induction program generalizing held with
  | done value =>
      obtain rfl : held = false := first
      exact second value
  | call op next ih => exact ⟨first.1, fun answer => ih answer (first.2 answer)⟩

/-- Calls that neither need the lock nor touch it. -/
theorem Bracketed.of_only {needs changes : Op → Option Bool}
    (only : program.Only fun op => needs op ≠ some true ∧ changes op = none) :
    program.Bracketed needs changes false := by
  induction program with
  | done value => rfl
  | call op next ih =>
      refine ⟨?_, fun answer => ?_⟩
      · intro need needed
        cases need with
        | true => exact absurd needed only.1.1
        | false => rfl
      · rw [only.1.2]
        exact ih answer (only.2 answer)

/-- Every call is replaced by a program that computes its answer. -/
def translate (implement : (op : Op) → Program Low LowAnswer (Answer op)) :
    Program Op Answer α → Program Low LowAnswer α
  | done value => done value
  | call op next => implement op >>= fun answer => translate implement (next answer)

section Translate

variable {implement : (op : Op) → Program Low LowAnswer (Answer op)}

@[simp] theorem translate_done (value : α) :
    translate implement (done value : Program Op Answer α) = done value := rfl

@[simp] theorem translate_call (op : Op) (next : Answer op → Program Op Answer α) :
    translate implement (call op next) =
      implement op >>= fun answer => translate implement (next answer) := rfl

@[simp] theorem translate_bind (program : Program Op Answer α)
    (rest : α → Program Op Answer β) :
    translate implement (program >>= rest) =
      translate implement program >>= fun value => translate implement (rest value) := by
  induction program with
  | done value => rfl
  | call op next ih => simp only [call_bind, translate_call, ih, bind_assoc]

theorem Only.translate {allowed : Op → Prop} {lower : Low → Prop} (only : program.Only allowed)
    (each : ∀ op, allowed op → (implement op).Only lower) :
    (translate implement program).Only lower := by
  induction program with
  | done value => trivial
  | call op next ih => exact (each op only.1).bind fun answer => ih answer (only.2 answer)

/-- The order of calls is kept by an implementation that keeps it call by call. -/
theorem Before.translate {lowUsual : (op : Low) → LowAnswer op → Prop}
    {lowFirst lowSecond : Low → Prop} (leads : program.Before usual first second ends)
    (all : ∀ op answer, usual op answer)
    (firsts : ∀ op, first op →
      (implement op).Before lowUsual lowFirst lowSecond fun _ => False)
    (others : ∀ op, ¬ second op → (implement op).Only fun low => ¬ lowSecond low) :
    (translate implement program).Before lowUsual lowFirst lowSecond ends := by
  induction program with
  | done value => exact leads
  | call op next ih =>
      cases leads with
      | inl here => exact (firsts op here).bind fun _ none => none.elim
      | inr later =>
          exact Before.after_only (others op later.1) fun answer =>
            ih answer (later.2 answer (all op answer))

/-- So is what comes after the calls of some kind. -/
theorem After.translate {trigger : Op → Prop} {lowTrigger : Low → Prop}
    {later : Program Op Answer α → Prop} {lowLater : Program Low LowAnswer α → Prop}
    (each : program.After (fun op _ => trigger op) later)
    (goes : ∀ left, later left → lowLater (translate implement left))
    (triggers : ∀ op, trigger op →
      (implement op).After (fun low _ => lowTrigger low) fun left =>
        ∀ rest : Answer op → Program Low LowAnswer α,
          (∀ answer, lowLater (rest answer)) → lowLater (left >>= rest))
    (others : ∀ op, ¬ trigger op → (implement op).Only fun low => ¬ lowTrigger low) :
    (translate implement program).After (fun low _ => lowTrigger low) lowLater := by
  induction program with
  | done value => trivial
  | call op next ih =>
      rw [translate_call]
      by_cases here : trigger op
      · apply (triggers op here).bind
        · intro left resumes
          exact resumes _ fun answer => goes _ ((each answer).1 here)
        · intro answer
          exact ih answer (each answer).2
      · apply After.of_only_bind ((others op here).mono fun _ apart _ => apart)
        intro answer
        exact ih answer (each answer).2

end Translate

end Program

end LayoutAdblock.Interaction
