import Mathlib.Control.Basic

namespace LayoutAdblock.Interaction

/-! # Programs that call their environment

A program is finished, or it makes a call and goes on with whatever the
environment answers.  Nothing is said here about what the calls do.
-/

/-- What is left of a program. It has a value, or it makes a call and goes on with whatever
it is answered, so that a run is decided by its answers alone. -/
inductive Program (Op : Type) (Answer : Op → Type) (α : Type) where
  | done (value : α)
  | call (op : Op) (next : Answer op → Program Op Answer α)

namespace Program

variable {Op : Type} {Answer : Op → Type} {α β : Type}

/-- One program after another one, whose value it is given. -/
def bind : Program Op Answer α → (α → Program Op Answer β) → Program Op Answer β
  | done value, rest => rest value
  | call op next, rest => call op fun answer => bind (next answer) rest

instance : Monad (Program Op Answer) where
  pure := done
  bind := bind

/-- One call, as a program that returns the answer. -/
def ask (op : Op) : Program Op Answer (Answer op) := call op done

@[simp] theorem pure_eq (value : α) : (pure value : Program Op Answer α) = done value := rfl

@[simp] theorem done_bind (value : α) (rest : α → Program Op Answer β) :
    done value >>= rest = rest value := rfl

@[simp] theorem call_bind (op : Op) (next : Answer op → Program Op Answer α)
    (rest : α → Program Op Answer β) :
    call op next >>= rest = call op fun answer => next answer >>= rest := rfl

theorem bind_done (program : Program Op Answer α) : program >>= done = program := by
  induction program with
  | done value => rfl
  | call op next ih =>
      rw [call_bind]
      congr
      funext answer
      exact ih answer

theorem bind_assoc {γ : Type} (program : Program Op Answer α) (rest : α → Program Op Answer β)
    (last : β → Program Op Answer γ) :
    program >>= rest >>= last = program >>= fun value => rest value >>= last := by
  induction program with
  | done value => rfl
  | call op next ih =>
      simp only [call_bind]
      congr
      funext answer
      exact ih answer

instance : LawfulMonad (Program Op Answer) :=
  LawfulMonad.mk' _ bind_done (fun _ _ => rfl) bind_assoc

/-- The loop over a list whose body makes calls. -/
def forEach (body : α → Program Op Answer Unit) : List α → Program Op Answer Unit
  | [] => done ()
  | item :: rest => do
      body item
      forEach body rest

/-- The loop of a filter whose test makes calls, in the order of the list and for each item
once. -/
def filterWith (test : α → Program Op Answer Bool) : List α → Program Op Answer (List α)
  | [] => done []
  | item :: rest => do
      let kept ← test item
      let others ← filterWith test rest
      return if kept then item :: others else others

/-- Run with an environment whose answers and effects are functions, so that the run can be
computed. -/
def exec {σ : Type} (handler : (op : Op) → σ → Answer op × σ) :
    Program Op Answer α → σ → α × σ
  | done value, state => (value, state)
  | call op next, state =>
      exec handler (next (handler op state).1) (handler op state).2

section Exec

variable {σ : Type} {handler : (op : Op) → σ → Answer op × σ} {state : σ}

@[simp] theorem exec_done (value : α) :
    (done value : Program Op Answer α).exec handler state = (value, state) := rfl

@[simp] theorem exec_ask (op : Op) : (ask op).exec handler state = handler op state := rfl

@[simp] theorem exec_bind (program : Program Op Answer α) (rest : α → Program Op Answer β) :
    (program >>= rest).exec handler state =
      (rest (program.exec handler state).1).exec handler (program.exec handler state).2 := by
  induction program generalizing state with
  | done value => rfl
  | call op next ih => exact ih (handler op state).1

end Exec

/-- Every call of that run is made in a state that passes a check. -/
def obeys {σ : Type} (handler : (op : Op) → σ → Answer op × σ) (check : Op → σ → Bool) :
    Program Op Answer α → σ → Bool
  | done _, _ => true
  | call op next, state =>
      check op state && obeys handler check (next (handler op state).1) (handler op state).2

/-- The state of that run when it first gets to a call of some kind. -/
def stopAt {σ : Type} (handler : (op : Op) → σ → Answer op × σ) (halts : Op → σ → Bool) :
    Program Op Answer α → σ → Option σ
  | done _, _ => none
  | call op next, state =>
      if halts op state then some state
      else stopAt handler halts (next (handler op state).1) (handler op state).2

def eval (answers : (op : Op) → Answer op) : Program Op Answer α → α
  | done value => value
  | call op next => eval answers (next (answers op))

@[simp] theorem eval_done (answers : (op : Op) → Answer op) (value : α) :
    (done value : Program Op Answer α).eval answers = value := rfl

@[simp] theorem eval_ask (answers : (op : Op) → Answer op) (op : Op) :
    (ask op).eval answers = answers op := rfl

@[simp] theorem eval_bind (answers : (op : Op) → Answer op) (program : Program Op Answer α)
    (rest : α → Program Op Answer β) :
    (program >>= rest).eval answers = (rest (program.eval answers)).eval answers := by
  induction program with
  | done value => rfl
  | call op next ih => exact ih (answers op)

theorem eval_filterWith (answers : (op : Op) → Answer op) (test : α → Program Op Answer Bool)
    (items : List α) :
    (filterWith test items).eval answers =
      items.filter fun item => (test item).eval answers := by
  induction items with
  | nil => rfl
  | cons head rest ih =>
      simp only [filterWith, eval_bind, ih, pure_eq, eval_done, List.filter_cons]

/-- Every call the program can make, whatever it is answered, is allowed. No environment is
needed to say so. -/
def Only (allowed : Op → Prop) : Program Op Answer α → Prop
  | done _ => True
  | call op next => allowed op ∧ ∀ answer, Only allowed (next answer)

@[simp] theorem only_done (allowed : Op → Prop) (value : α) :
    (done value : Program Op Answer α).Only allowed := trivial

@[simp] theorem only_ask {allowed : Op → Prop} {op : Op} :
    (ask op : Program Op Answer (Answer op)).Only allowed ↔ allowed op :=
  ⟨fun only => only.1, fun allows => ⟨allows, fun _ => trivial⟩⟩

theorem only_true (program : Program Op Answer α) : program.Only fun _ => True := by
  induction program with
  | done value => trivial
  | call op next ih => exact ⟨trivial, ih⟩

theorem Only.bind {allowed : Op → Prop} {program : Program Op Answer α}
    {rest : α → Program Op Answer β} (first : program.Only allowed)
    (second : ∀ value, (rest value).Only allowed) : (program >>= rest).Only allowed := by
  induction program with
  | done value => exact second value
  | call op next ih => exact ⟨first.1, fun answer => ih answer (first.2 answer)⟩

theorem Only.mono {first second : Op → Prop} {program : Program Op Answer α}
    (only : program.Only first) (weaker : ∀ op, first op → second op) :
    program.Only second := by
  induction program with
  | done value => trivial
  | call op next ih => exact ⟨weaker op only.1, fun answer => ih answer (only.2 answer)⟩

theorem Only.forEach {allowed : Op → Prop} {body : α → Program Op Answer Unit}
    (each : ∀ item, (body item).Only allowed) (items : List α) :
    (forEach body items).Only allowed := by
  induction items with
  | nil => trivial
  | cons head rest ih => exact (each head).bind fun _ => ih

theorem Only.filterWith {allowed : Op → Prop} {test : α → Program Op Answer Bool}
    (each : ∀ item, (test item).Only allowed) (items : List α) :
    (filterWith test items).Only allowed := by
  induction items with
  | nil => trivial
  | cons head rest ih => exact (each head).bind fun _ => ih.bind fun _ => trivial

/-- The program makes allowed calls only, and what it returns fits, whatever it is
answered. -/
def Does (allowed : Op → Prop) (ends : α → Prop) : Program Op Answer α → Prop
  | done value => ends value
  | call op next => allowed op ∧ ∀ answer, Does allowed ends (next answer)

theorem Only.does {allowed : Op → Prop} {program : Program Op Answer α}
    (only : program.Only allowed) : program.Does allowed fun _ => True := by
  induction program with
  | done value => trivial
  | call op next ih => exact ⟨only.1, fun answer => ih answer (only.2 answer)⟩

theorem Does.only {allowed : Op → Prop} {ends : α → Prop} {program : Program Op Answer α}
    (does : program.Does allowed ends) : program.Only allowed := by
  induction program with
  | done value => trivial
  | call op next ih => exact ⟨does.1, fun answer => ih answer (does.2 answer)⟩

theorem Does.mono {allowed wider : Op → Prop} {ends weaker : α → Prop}
    {program : Program Op Answer α} (does : program.Does allowed ends)
    (calls : ∀ op, allowed op → wider op) (fits : ∀ value, ends value → weaker value) :
    program.Does wider weaker := by
  induction program with
  | done value => exact fits value does
  | call op next ih => exact ⟨calls op does.1, fun answer => ih answer (does.2 answer)⟩

theorem Does.bind {allowed : Op → Prop} {middle : α → Prop} {ends : β → Prop}
    {program : Program Op Answer α} {rest : α → Program Op Answer β}
    (first : program.Does allowed middle)
    (second : ∀ value, middle value → (rest value).Does allowed ends) :
    (program >>= rest).Does allowed ends := by
  induction program with
  | done value => exact second value first
  | call op next ih => exact ⟨first.1, fun answer => ih answer (first.2 answer)⟩

end Program

end LayoutAdblock.Interaction
