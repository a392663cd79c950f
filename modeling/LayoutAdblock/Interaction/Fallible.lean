import LayoutAdblock.Interaction.Environment

namespace LayoutAdblock.Interaction

/-! # Programs that can fail

A fallible program stops at its first error.  What has to be done on the way
out (a destructor) is part of the program that owns it.
-/

open Environment

variable {Op : Type} {Answer : Op → Type} {σ ε δ α β : Type}

/-- A program that ends with a value or with an error, as one with `?` in every line does. -/
abbrev Fallible (Op : Type) (Answer : Op → Type) (ε α : Type) :=
  ExceptT ε (Program Op Answer) α

namespace Fallible

/-- A program that answers with a result, as the failure or success it stands for. -/
def attempt (program : Program Op Answer (Except ε α)) : Fallible Op Answer ε α :=
  ExceptT.mk program

/-- A program that cannot fail, within one that can. -/
def always (program : Program Op Answer α) : Fallible Op Answer ε α :=
  ExceptT.lift program

/-- Stop with an error unless a condition holds. -/
def require (condition : Bool) (error : ε) : Fallible Op Answer ε Unit :=
  if condition then pure () else throw error

/-- The same program with its error put another way. -/
def mapError (wrap : ε → δ) (program : Fallible Op Answer ε α) : Fallible Op Answer δ α :=
  ExceptT.mk do
    let result ← program.run
    return result.mapError wrap

/-- Clean up however the program ends, and then pass its value or its error on. -/
def afterwards (program : Fallible Op Answer ε α) (cleanUp : Program Op Answer Unit) :
    Fallible Op Answer ε α :=
  ExceptT.mk do
    let result ← program.run
    cleanUp
    return result

/-- On an error something is cleaned up before the error is passed on. Whether the cleaning
succeeds is not looked at. -/
def onError (program : Fallible Op Answer ε α) (cleanUp : Program Op Answer Unit) :
    Fallible Op Answer ε α :=
  ExceptT.mk do
    match ← program.run with
    | .ok value => return .ok value
    | .error error =>
        cleanUp
        return .error error

end Fallible

section Exec

variable {handler : (op : Op) → σ → Answer op × σ} {state after : σ}

theorem exec_try {program : Fallible Op Answer ε α} {rest : α → Fallible Op Answer ε β} {value : α}
    (first : program.run.exec handler state = (.ok value, after)) :
    (program >>= rest).run.exec handler state = (rest value).run.exec handler after := by
  rw [ExceptT.run_bind, Program.exec_bind, first]

theorem exec_always {program : Program Op Answer α} :
    (Fallible.always program : Fallible Op Answer ε α).run.exec handler state =
      (.ok (program.exec handler state).1, (program.exec handler state).2) :=
  Program.exec_bind program _

theorem exec_afterwards {program : Fallible Op Answer ε α} {cleanUp : Program Op Answer Unit} :
    (program.afterwards cleanUp).run.exec handler state =
      ((program.run.exec handler state).1,
        (cleanUp.exec handler (program.run.exec handler state).2).2) := by
  simp only [Fallible.afterwards, ExceptT.run_mk, Program.exec_bind, Program.pure_eq,
    Program.exec_done]

end Exec

section Only

variable {allowed : Op → Prop}

theorem only_try {program : Fallible Op Answer ε α} {rest : α → Fallible Op Answer ε β}
    (first : program.run.Only allowed) (second : ∀ value, (rest value).run.Only allowed) :
    (program >>= rest).run.Only allowed := by
  rw [ExceptT.run_bind]
  apply first.bind
  intro result
  cases result with
  | ok value => exact second value
  | error error => trivial

theorem only_always {program : Program Op Answer α} (only : program.Only allowed) :
    (Fallible.always program : Fallible Op Answer ε α).run.Only allowed :=
  only.bind fun _ => trivial

theorem only_require {condition : Bool} {error : ε} :
    (Fallible.require condition error : Fallible Op Answer ε Unit).run.Only allowed := by
  cases condition with
  | true => trivial
  | false => trivial

theorem only_mapError {wrap : ε → δ} {program : Fallible Op Answer ε α}
    (only : program.run.Only allowed) : (program.mapError wrap).run.Only allowed :=
  only.bind fun _ => trivial

theorem only_afterwards {program : Fallible Op Answer ε α} {cleanUp : Program Op Answer Unit}
    (only : program.run.Only allowed) (cleaning : cleanUp.Only allowed) :
    (program.afterwards cleanUp).run.Only allowed :=
  only.bind fun _ => cleaning.bind fun _ => trivial

theorem only_onError {program : Fallible Op Answer ε α} {cleanUp : Program Op Answer Unit}
    (only : program.run.Only allowed) (cleaning : cleanUp.Only allowed) :
    (program.onError cleanUp).run.Only allowed := by
  apply only.bind
  intro result
  cases result with
  | ok value => trivial
  | error error => exact cleaning.bind fun _ => trivial

end Only

/-- A postcondition with a case for each of the two ends. -/
def outcome (succeeded : α → σ → Prop) (failed : ε → σ → Prop) : Except ε α → σ → Prop
  | .ok value, state => succeeded value state
  | .error error, state => failed error state

namespace Environment

variable {env : Environment Op Answer σ} {invariant : σ → Prop} {state : σ}

theorem wp_done {value : α} {post : α → σ → Prop} (holds : post value state) :
    env.wp invariant (.done value) post state :=
  holds

theorem wp_ask {op : Op} {post : Answer op → σ → Prop}
    (torn : ∀ seen, env.torn op state seen → invariant seen)
    (step : ∀ answer after, env.step op state answer after →
      invariant after ∧ post answer after) :
    env.wp invariant (.ask op) post state :=
  ⟨torn, step⟩

theorem wp_attempt {program : Program Op Answer (Except ε α)} {post : Except ε α → σ → Prop}
    (holds : env.wp invariant program post state) :
    env.wp invariant (Fallible.attempt program).run post state :=
  holds

theorem wp_always {program : Program Op Answer α} {middle : α → σ → Prop}
    {failed : ε → σ → Prop} (holds : env.wp invariant program middle state) :
    env.wp invariant (Fallible.always program).run (outcome middle failed) state :=
  wp_seq holds fun _ _ held => held

theorem wp_require {condition : Bool} {error : ε} {succeeded : Unit → σ → Prop}
    {failed : ε → σ → Prop} (holds : condition = true → succeeded () state)
    (fails : condition = false → failed error state) :
    env.wp invariant (Fallible.require condition error : Fallible Op Answer ε Unit).run
      (outcome succeeded failed) state := by
  cases condition with
  | true => exact holds rfl
  | false => exact fails rfl

/-- The rule of `?`: an error of the first program is an error of the whole. -/
theorem wp_try {program : Fallible Op Answer ε α} {rest : α → Fallible Op Answer ε β}
    {middle : α → σ → Prop} {succeeded : β → σ → Prop} {failed : ε → σ → Prop}
    (first : env.wp invariant program.run (outcome middle failed) state)
    (second : ∀ value after, middle value after →
      env.wp invariant (rest value).run (outcome succeeded failed) after) :
    env.wp invariant (program >>= rest).run (outcome succeeded failed) state := by
  rw [ExceptT.run_bind]
  apply wp_seq first
  intro result after held
  cases result with
  | ok value => exact second value after held
  | error error => exact held

theorem wp_mapError {wrap : ε → δ} {program : Fallible Op Answer ε α}
    {succeeded : α → σ → Prop} {middle : ε → σ → Prop} {failed : δ → σ → Prop}
    (holds : env.wp invariant program.run (outcome succeeded middle) state)
    (wraps : ∀ error after, middle error after → failed (wrap error) after) :
    env.wp invariant (program.mapError wrap).run (outcome succeeded failed) state := by
  apply wp_seq holds
  intro result after held
  cases result with
  | ok value => exact held
  | error error => exact wraps error after held

/-- The errors of the program all leave the same. -/
theorem wp_mapError_same {wrap : ε → δ} {program : Fallible Op Answer ε α}
    {succeeded : α → σ → Prop} {failed : σ → Prop}
    (holds : env.wp invariant program.run (outcome succeeded fun _ => failed) state) :
    env.wp invariant (program.mapError wrap).run (outcome succeeded fun _ => failed) state :=
  wp_mapError holds fun _ _ held => held

theorem wp_afterwards {program : Fallible Op Answer ε α} {cleanUp : Program Op Answer Unit}
    {middle post : Except ε α → σ → Prop}
    (first : env.wp invariant program.run middle state)
    (cleaned : ∀ result after, middle result after →
      env.wp invariant cleanUp (fun _ => post result) after) :
    env.wp invariant (program.afterwards cleanUp).run post state := by
  apply wp_seq first
  intro result after held
  exact wp_seq (cleaned result after held) fun _ _ last => last

theorem wp_onError {program : Fallible Op Answer ε α} {cleanUp : Program Op Answer Unit}
    {succeeded : α → σ → Prop} {middle failed : ε → σ → Prop}
    (first : env.wp invariant program.run (outcome succeeded middle) state)
    (cleaned : ∀ error after, middle error after →
      env.wp invariant cleanUp (fun _ => failed error) after) :
    env.wp invariant (program.onError cleanUp).run (outcome succeeded failed) state := by
  apply wp_seq first
  intro result after held
  cases result with
  | ok value => exact held
  | error error => exact wp_seq (cleaned error after held) fun _ _ last => last

theorem runs_try {program : Fallible Op Answer ε α} {rest : α → Fallible Op Answer ε β}
    {before middle after : σ} {value : α} {last : Except ε β}
    (first : env.Runs program.run before (.ok value) middle)
    (second : env.Runs (rest value).run middle last after) :
    env.Runs (program >>= rest).run before last after := by
  rw [ExceptT.run_bind]
  exact first.bind second

theorem wp_outcome_mono {program : Fallible Op Answer ε α}
    {first second : α → σ → Prop} {failed failure : ε → σ → Prop}
    (holds : env.wp invariant program.run (outcome first failed) state)
    (weaker : ∀ value after, first value after → second value after)
    (failing : ∀ error after, failed error after → failure error after) :
    env.wp invariant program.run (outcome second failure) state := by
  apply wp_mono holds
  intro result after held
  cases result with
  | ok value => exact weaker value after held
  | error error => exact failing error after held

end Environment

end LayoutAdblock.Interaction
