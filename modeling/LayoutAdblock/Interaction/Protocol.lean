import Mathlib.Logic.Function.Basic
import Mathlib.Logic.Relation
import LayoutAdblock.Interaction.Environment
import LayoutAdblock.Interaction.Fallible
import LayoutAdblock.Interaction.Precedence

namespace LayoutAdblock.Interaction

/-! # Threads that keep to a protocol

A protocol says in which phase of a thread a call is allowed and where its answer
leads.  What every allowed call of one thread preserves, all threads together
preserve, however their calls interleave.
-/

variable {Op : Type} {Answer : Op → Type} {τ σ ε α β ι : Type}

/-- Which calls may be made in each phase, and which phase their answer leads to. A phase is
what is known of the environment from the calls so far. -/
structure Protocol (Op : Type) (Answer : Op → Type) (τ : Type) where
  allows : τ → Op → Prop
  moves : τ → (op : Op) → Answer op → τ

namespace Protocol

variable {protocol : Protocol Op Answer τ} {phase : τ}

/-- From a phase on, the program makes allowed calls only, and its end fits. -/
def Follows (protocol : Protocol Op Answer τ) :
    τ → Program Op Answer α → (α → τ → Prop) → Prop
  | phase, .done value, ends => ends value phase
  | phase, .call op next, ends =>
      protocol.allows phase op ∧
        ∀ answer, Follows protocol (protocol.moves phase op answer) (next answer) ends

theorem Follows.bind {program : Program Op Answer α} {rest : α → Program Op Answer β}
    {middle : α → τ → Prop} {ends : β → τ → Prop} (first : protocol.Follows phase program middle)
    (second : ∀ value reached, middle value reached → protocol.Follows reached (rest value) ends) :
    protocol.Follows phase (program >>= rest) ends := by
  induction program generalizing phase with
  | done value => exact second value phase first
  | call op next ih => exact ⟨first.1, fun answer => ih answer (first.2 answer)⟩

theorem Follows.mono {program : Program Op Answer α} {ends wider : α → τ → Prop}
    (follows : protocol.Follows phase program ends)
    (weaker : ∀ value reached, ends value reached → wider value reached) :
    protocol.Follows phase program wider := by
  induction program generalizing phase with
  | done value => exact weaker value phase follows
  | call op next ih => exact ⟨follows.1, fun answer => ih answer (follows.2 answer)⟩

/-- Calls that the phase allows and that leave it alone. -/
theorem Follows.of_does {program : Program Op Answer α} {allowed : Op → Prop} {ends : α → Prop}
    (does : program.Does allowed ends)
    (stays : ∀ op, allowed op → protocol.allows phase op ∧
      ∀ answer, protocol.moves phase op answer = phase) :
    protocol.Follows phase program fun value reached => reached = phase ∧ ends value := by
  induction program with
  | done value => exact ⟨rfl, does⟩
  | call op next ih =>
      obtain ⟨allows, moves⟩ := stays op does.1
      refine ⟨allows, fun answer => ?_⟩
      rw [moves answer]
      exact ih answer (does.2 answer)

/-- A step that can fail and leads to related phases only. -/
theorem Follows.tries {related : τ → Prop} {program : Fallible Op Answer ε α}
    {rest : α → Fallible Op Answer ε β} {ends : Except ε β → τ → Prop}
    (first : protocol.Follows phase program.run fun _ => related)
    (failed : ∀ error reached, related reached → ends (.error error) reached)
    (second : ∀ value reached, related reached →
      protocol.Follows reached (rest value).run ends) :
    protocol.Follows phase (program >>= rest).run ends := by
  rw [ExceptT.run_bind]
  apply first.bind
  intro result reached held
  cases result with
  | ok value => exact second value reached held
  | error error => exact failed error reached held

theorem Follows.ask {op : Op} {ends : Answer op → τ → Prop} (allowed : protocol.allows phase op)
    (leads : ∀ answer, ends answer (protocol.moves phase op answer)) :
    protocol.Follows phase (.ask op) ends :=
  ⟨allowed, leads⟩

/-- Calls that are allowed in related phases and lead to related phases. -/
theorem Follows.of_only {related : τ → Prop} {program : Program Op Answer α}
    (only : program.Only fun op => ∀ phase, related phase →
      protocol.allows phase op ∧ ∀ answer, related (protocol.moves phase op answer))
    (held : related phase) : protocol.Follows phase program fun _ => related := by
  induction program generalizing phase with
  | done value => exact held
  | call op next ih =>
      obtain ⟨allowed, leads⟩ := only.1 phase held
      exact ⟨allowed, fun answer => ih answer (only.2 answer) (leads answer)⟩

/-- Calls that are carried out by calls of another kind. -/
theorem Follows.translate {Low : Type} {LowAnswer : Low → Type}
    {lower : Protocol Low LowAnswer τ} {implement : (op : Op) → Program Low LowAnswer (Answer op)}
    {program : Program Op Answer α} {ends : α → τ → Prop}
    (follows : protocol.Follows phase program ends)
    (implements : ∀ phase op, protocol.allows phase op →
      lower.Follows phase (implement op) fun answer reached =>
        reached = protocol.moves phase op answer) :
    lower.Follows phase (Program.translate implement program) ends := by
  induction program generalizing phase with
  | done value => exact follows
  | call op next ih =>
      apply (implements phase op follows.1).bind
      rintro answer _ rfl
      exact ih answer (follows.2 answer)

/-- One thread alone, with an eye on every instant. -/
theorem Follows.wp {env : Environment Op Answer σ} {invariant : σ → Prop}
    {together : σ → τ → Prop} {program : Program Op Answer α} {ends : α → τ → Prop} {state : σ}
    (preserved : ∀ state phase op answer after, together state phase → protocol.allows phase op →
      env.step op state answer after → together after (protocol.moves phase op answer))
    (torn : ∀ state phase op seen, together state phase → protocol.allows phase op →
      env.torn op state seen → invariant seen)
    (safe : ∀ state phase, together state phase → invariant state)
    (follows : protocol.Follows phase program ends) (held : together state phase) :
    env.wp invariant program
      (fun value after => ∃ reached, together after reached ∧ ends value reached) state := by
  induction program generalizing phase state with
  | done value => exact ⟨phase, held, follows⟩
  | call op next ih =>
      refine ⟨fun seen tears => torn state phase op seen held follows.1 tears, ?_⟩
      intro answer after taken
      have kept := preserved state phase op answer after held follows.1 taken
      exact ⟨safe _ _ kept, ih answer (follows.2 answer) kept⟩

end Protocol

/-- Programs that run over one state, each as far as it has come. -/
structure Threads (Op : Type) (Answer : Op → Type) (σ α ι : Type) where
  state : σ
  programs : ι → Program Op Answer α

namespace Threads

variable [DecidableEq ι]

/-- Some thread makes its next call. -/
inductive Step (env : Environment Op Answer σ) :
    Threads Op Answer σ α ι → Threads Op Answer σ α ι → Prop where
  | calls {threads : Threads Op Answer σ α ι} {thread : ι} {op : Op}
      {next : Answer op → Program Op Answer α} {answer : Answer op} {state : σ}
      (pending : threads.programs thread = .call op next)
      (taken : env.step op threads.state answer state) :
      Step env threads ⟨state, Function.update threads.programs thread (next answer)⟩

/-- Any number of steps of any of the threads. -/
abbrev Reach (env : Environment Op Answer σ) :
    Threads Op Answer σ α ι → Threads Op Answer σ α ι → Prop :=
  Relation.ReflTransGen (Step env)

variable {env : Environment Op Answer σ} {threads later : Threads Op Answer σ α ι}

/-- A thread runs alone to its end. -/
theorem Reach.runs {programs : ι → Program Op Answer α} {thread : ι}
    {program : Program Op Answer α} {before after : σ} {value : α}
    (pending : programs thread = program) (ran : env.Runs program before value after) :
    Reach env ⟨before, programs⟩ ⟨after, Function.update programs thread (.done value)⟩ := by
  induction ran generalizing programs with
  | done =>
      rw [← pending, Function.update_eq_self]
  | @call op next before middle after answer value taken _ ih =>
      have first : Step env ⟨before, programs⟩
          ⟨middle, Function.update programs thread (next answer)⟩ := .calls pending taken
      have rest := ih (Function.update_self thread (next answer) programs)
      rw [Function.update_idem] at rest
      exact .head first rest

omit [DecidableEq ι] in
/-- Every thread is somewhere in the protocol, where the whole allows it. The phases are
known to the proof only. -/
def Keeps (protocol : Protocol Op Answer τ) (together : σ → (ι → τ) → Prop)
    (threads : Threads Op Answer σ α ι) : Prop :=
  ∃ phases, together threads.state phases ∧
    ∀ thread, protocol.Follows (phases thread) (threads.programs thread) fun _ _ => True

variable {protocol : Protocol Op Answer τ} {together : σ → (ι → τ) → Prop}

theorem Keeps.step
    (preserved : ∀ state phases thread op answer after, together state phases →
      protocol.allows (phases thread) op → env.step op state answer after →
      together after (Function.update phases thread
        (protocol.moves (phases thread) op answer)))
    (keeps : threads.Keeps protocol together) (step : Step env threads later) :
    later.Keeps protocol together := by
  obtain ⟨phases, held, follow⟩ := keeps
  cases step with
  | @calls thread op next answer state pending taken =>
      have here := follow thread
      rw [pending] at here
      refine ⟨_, preserved _ phases thread op answer _ held here.1 taken, fun other => ?_⟩
      by_cases same : other = thread
      · subst same
        simpa only [Function.update_self] using here.2 answer
      · simpa only [Function.update_of_ne same] using follow other

theorem Keeps.reach
    (preserved : ∀ state phases thread op answer after, together state phases →
      protocol.allows (phases thread) op → env.step op state answer after →
      together after (Function.update phases thread
        (protocol.moves (phases thread) op answer)))
    (keeps : threads.Keeps protocol together) (reach : Reach env threads later) :
    later.Keeps protocol together := by
  induction reach with
  | refl => exact keeps
  | tail _ step ih => exact ih.step preserved step

end Threads

end LayoutAdblock.Interaction
