import LayoutAdblock.Interaction.Program

namespace LayoutAdblock.Interaction

/-! # Environments

What a call may answer and do is a relation, so an environment can be a fixed
machine, one that fails at will, or one that changes on its own between calls.
-/

variable {Op : Type} {Answer : Op → Type} {σ α β : Type}

/-- What a system may do with a call: which answers and later states are possible from a
state. Nothing is said of which of them happens, so a proof about every run covers whatever
the system decides. -/
structure Environment (Op : Type) (Answer : Op → Type) (σ : Type) where
  step : (op : Op) → σ → Answer op → σ → Prop
  /-- The states that can be seen while a call is in progress. -/
  torn : Op → σ → σ → Prop := fun _ _ _ => False

namespace Environment

variable (env : Environment Op Answer σ)

/-- A complete run of a program: the environment may answer each call in any way it allows,
and the run ends with a value and a state. -/
inductive Runs : Program Op Answer α → σ → α → σ → Prop where
  | done {value : α} {state : σ} : Runs (.done value) state value state
  | call {op : Op} {next : Answer op → Program Op Answer α} {before middle after : σ}
      {answer : Answer op} {value : α} (step : env.step op before answer middle)
      (rest : Runs (next answer) middle value after) :
      Runs (.call op next) before value after

/-- The states that can be seen at some instant of a run, finished or not: between two
calls, or inside one where the environment allows a torn state. -/
inductive Observes : Program Op Answer α → σ → σ → Prop where
  | now {program : Program Op Answer α} {state : σ} : Observes program state state
  | torn {op : Op} {next : Answer op → Program Op Answer α} {before seen : σ}
      (torn : env.torn op before seen) : Observes (.call op next) before seen
  | later {op : Op} {next : Answer op → Program Op Answer α} {before middle seen : σ}
      {answer : Answer op} (step : env.step op before answer middle)
      (rest : Observes (next answer) middle seen) : Observes (.call op next) before seen

/-- From `state`, every instant of a run after the first satisfies `invariant`
and every complete run ends in `post`. -/
def wp (invariant : σ → Prop) : Program Op Answer α → (α → σ → Prop) → σ → Prop
  | .done value, post, state => post value state
  | .call op next, post, state =>
      (∀ seen, env.torn op state seen → invariant seen) ∧
        ∀ answer after, env.step op state answer after →
          invariant after ∧ wp invariant (next answer) post after

/-- The precondition of complete runs only. What is seen in between does not matter. -/
def ensures (program : Program Op Answer α) (post : α → σ → Prop) (state : σ) : Prop :=
  env.wp (fun _ => True) program post state

variable {env}

theorem wp_runs {invariant : σ → Prop} {program : Program Op Answer α} {post : α → σ → Prop}
    {before after : σ} {value : α} (holds : env.wp invariant program post before)
    (run : env.Runs program before value after) : post value after := by
  induction run with
  | done => exact holds
  | call step _ ih => exact ih (holds.2 _ _ step).2

theorem wp_observes {invariant : σ → Prop} {program : Program Op Answer α}
    {post : α → σ → Prop} {before seen : σ} (holds : env.wp invariant program post before)
    (initially : invariant before) (observed : env.Observes program before seen) :
    invariant seen := by
  induction observed with
  | now => exact initially
  | torn torn => exact holds.1 _ torn
  | later step _ ih =>
      have afterStep := holds.2 _ _ step
      exact ih afterStep.2 afterStep.1

theorem ensures_runs {program : Program Op Answer α} {post : α → σ → Prop} {before after : σ}
    {value : α} (holds : env.ensures program post before)
    (run : env.Runs program before value after) : post value after :=
  wp_runs holds run

theorem wp_mono {invariant : σ → Prop} {program : Program Op Answer α}
    {first second : α → σ → Prop} {state : σ} (holds : env.wp invariant program first state)
    (weaker : ∀ value after, first value after → second value after) :
    env.wp invariant program second state := by
  induction program generalizing state with
  | done value => exact weaker value state holds
  | call op next ih =>
      refine ⟨holds.1, ?_⟩
      intro answer after step
      have afterStep := holds.2 answer after step
      exact ⟨afterStep.1, ih answer afterStep.2⟩

/-- The last instant is one of those that are seen. -/
theorem wp_kept {invariant : σ → Prop} {program : Program Op Answer α} {post : α → σ → Prop}
    {state : σ} (holds : env.wp invariant program post state) (initially : invariant state) :
    env.wp invariant program (fun value after => post value after ∧ invariant after) state := by
  induction program generalizing state with
  | done value => exact ⟨holds, initially⟩
  | call op next ih =>
      refine ⟨holds.1, ?_⟩
      intro answer after step
      have afterStep := holds.2 answer after step
      exact ⟨afterStep.1, ih answer afterStep.2 afterStep.1⟩

theorem wp_weaken {first second : σ → Prop} {program : Program Op Answer α}
    {post : α → σ → Prop} {state : σ} (holds : env.wp first program post state)
    (weaker : ∀ seen, first seen → second seen) : env.wp second program post state := by
  induction program generalizing state with
  | done value => exact holds
  | call op next ih =>
      refine ⟨fun seen torn => weaker seen (holds.1 seen torn), ?_⟩
      intro answer after step
      have afterStep := holds.2 answer after step
      exact ⟨weaker after afterStep.1, ih answer afterStep.2⟩

theorem wp_bind {invariant : σ → Prop} {program : Program Op Answer α}
    {rest : α → Program Op Answer β} {post : β → σ → Prop} {state : σ} :
    env.wp invariant (program >>= rest) post state ↔
      env.wp invariant program (fun value => env.wp invariant (rest value) post) state := by
  induction program generalizing state with
  | done value => rfl
  | call op next ih =>
      rw [Program.call_bind, wp, wp]
      simp only [ih]

/-- A run of a sequence, from what its parts ensure. -/
theorem wp_seq {invariant : σ → Prop} {program : Program Op Answer α}
    {rest : α → Program Op Answer β} {middle : α → σ → Prop} {post : β → σ → Prop} {state : σ}
    (first : env.wp invariant program middle state)
    (second : ∀ value after, middle value after → env.wp invariant (rest value) post after) :
    env.wp invariant (program >>= rest) post state :=
  wp_bind.mpr (wp_mono first second)

/-- The loop rule: `loop` relates the items that are left to the state. -/
theorem wp_forEach {invariant : σ → Prop} {body : α → Program Op Answer Unit}
    {loop : List α → σ → Prop} {items : List α} {state : σ}
    (each : ∀ item rest before, loop (item :: rest) before →
      env.wp invariant (body item) (fun _ => loop rest) before)
    (initially : loop items state) :
    env.wp invariant (Program.forEach body items) (fun _ => loop []) state := by
  induction items generalizing state with
  | nil => exact initially
  | cons head rest ih =>
      apply wp_seq (each head rest state initially)
      intro _ after held
      exact ih held

/-- A loop keeps what its body keeps. -/
theorem wp_loop {invariant kept : σ → Prop} {body : α → Program Op Answer Unit} {items : List α}
    {state : σ}
    (each : ∀ item before, kept before → env.wp invariant (body item) (fun _ => kept) before)
    (initially : kept state) :
    env.wp invariant (Program.forEach body items) (fun _ => kept) state := by
  induction items generalizing state with
  | nil => exact initially
  | cons head rest ih => exact wp_seq (each head state initially) fun _ _ held => ih held

@[simp] theorem ensures_done {value : α} {post : α → σ → Prop} {state : σ} :
    env.ensures (.done value) post state ↔ post value state := Iff.rfl

@[simp] theorem ensures_ask {op : Op} {post : Answer op → σ → Prop} {state : σ} :
    env.ensures (.ask op) post state ↔
      ∀ answer after, env.step op state answer after → post answer after := by
  simp [ensures, Program.ask, wp]

theorem ensures_mono {program : Program Op Answer α} {first second : α → σ → Prop} {state : σ}
    (holds : env.ensures program first state)
    (weaker : ∀ value after, first value after → second value after) :
    env.ensures program second state :=
  wp_mono holds weaker

theorem ensures_bind {program : Program Op Answer α} {rest : α → Program Op Answer β}
    {post : β → σ → Prop} {state : σ} :
    env.ensures (program >>= rest) post state ↔
      env.ensures program (fun value => env.ensures (rest value) post) state :=
  wp_bind

theorem ensures_seq {program : Program Op Answer α} {rest : α → Program Op Answer β}
    {middle : α → σ → Prop} {post : β → σ → Prop} {state : σ}
    (first : env.ensures program middle state)
    (second : ∀ value after, middle value after → env.ensures (rest value) post after) :
    env.ensures (program >>= rest) post state :=
  wp_seq first second

theorem ensures_and {program : Program Op Answer α} {first second : α → σ → Prop} {state : σ}
    (left : env.ensures program first state) (right : env.ensures program second state) :
    env.ensures program (fun value after => first value after ∧ second value after) state := by
  induction program generalizing state with
  | done value => exact ⟨left, right⟩
  | call op next ih =>
      refine ⟨fun _ _ => trivial, ?_⟩
      intro answer after step
      exact ⟨trivial, ih answer (left.2 answer after step).2 (right.2 answer after step).2⟩

theorem wp_and {invariant : σ → Prop} {program : Program Op Answer α}
    {first second : α → σ → Prop} {state : σ} (left : env.wp invariant program first state)
    (right : env.ensures program second state) :
    env.wp invariant program (fun value after => first value after ∧ second value after) state := by
  induction program generalizing state with
  | done value => exact ⟨left, right⟩
  | call op next ih =>
      refine ⟨left.1, ?_⟩
      intro answer after step
      have afterStep := left.2 answer after step
      exact ⟨afterStep.1, ih answer afterStep.2 (right.2 answer after step).2⟩

theorem ensures_forEach {body : α → Program Op Answer Unit} {loop : List α → σ → Prop}
    {items : List α} {state : σ}
    (each : ∀ item rest before, loop (item :: rest) before →
      env.ensures (body item) (fun _ => loop rest) before)
    (initially : loop items state) :
    env.ensures (Program.forEach body items) (fun _ => loop []) state :=
  wp_forEach each initially

theorem ensures_trivial {program : Program Op Answer α} {state : σ} :
    env.ensures program (fun _ _ => True) state := by
  induction program generalizing state with
  | done value => trivial
  | call op next ih => exact ⟨fun _ _ => trivial, fun answer _ _ => ⟨trivial, ih answer⟩⟩

/-- A loop preserves what its body preserves for each of its items. -/
theorem ensures_loop {body : α → Program Op Answer Unit} {kept : σ → Prop} {items : List α}
    {state : σ}
    (each : ∀ item ∈ items, ∀ before, kept before →
      env.ensures (body item) (fun _ => kept) before)
    (initially : kept state) :
    env.ensures (Program.forEach body items) (fun _ => kept) state := by
  induction items generalizing state with
  | nil => exact initially
  | cons head rest ih =>
      apply ensures_seq (each head List.mem_cons_self state initially)
      intro _ after held
      exact ih (fun item member => each item (List.mem_cons_of_mem _ member)) held

/-- What every call preserves, every program preserves. -/
theorem ensures_of_step {program : Program Op Answer α} {state : σ} {allowed : Op → Prop}
    (kept : σ → Prop) (only : program.Only allowed)
    (step : ∀ op before answer after, allowed op → kept before →
      env.step op before answer after → kept after)
    (initially : kept state) : env.ensures program (fun _ => kept) state := by
  induction program generalizing state with
  | done value => exact initially
  | call op next ih =>
      refine ⟨fun _ _ => trivial, ?_⟩
      intro answer after taken
      exact ⟨trivial, ih answer (only.2 answer) (step op state answer after only.1 initially taken)⟩

/-- What a program returns whatever it is answered. -/
theorem ensures_does {program : Program Op Answer α} {state : σ} {allowed : Op → Prop}
    {ends : α → Prop} (does : program.Does allowed ends) :
    env.ensures program (fun value _ => ends value) state := by
  induction program generalizing state with
  | done value => exact does
  | call op next ih =>
      refine ⟨fun _ _ => trivial, ?_⟩
      intro answer after _
      exact ⟨trivial, ih answer (does.2 answer)⟩

/-- What a coarser environment ensures, a finer one ensures. -/
theorem ensures_of_view {τ : Type} {coarse : Environment Op Answer τ} {view : σ → τ}
    {program : Program Op Answer α} {post : α → τ → Prop} {state : σ}
    (lowers : ∀ op before answer after, env.step op before answer after →
      coarse.step op (view before) answer (view after))
    (holds : coarse.ensures program post (view state)) :
    env.ensures program (fun value after => post value (view after)) state := by
  induction program generalizing state with
  | done value => exact holds
  | call op next ih =>
      refine ⟨fun _ _ => trivial, fun answer after taken => ⟨trivial, ih answer ?_⟩⟩
      exact (holds.2 answer (view after) (lowers op state answer after taken)).2

/-- What every allowed call preserves, with an eye on every instant. -/
theorem wp_of_step {invariant kept : σ → Prop} {program : Program Op Answer α} {state : σ}
    {allowed : Op → Prop} (only : program.Only allowed)
    (torn : ∀ op before seen, allowed op → kept before → env.torn op before seen → invariant seen)
    (step : ∀ op before answer after, allowed op → kept before →
      env.step op before answer after → kept after)
    (safe : ∀ seen, kept seen → invariant seen) (initially : kept state) :
    env.wp invariant program (fun _ => kept) state := by
  induction program generalizing state with
  | done value => exact initially
  | call op next ih =>
      refine ⟨fun seen tears => torn op state seen only.1 initially tears, ?_⟩
      intro answer after taken
      have held := step op state answer after only.1 initially taken
      exact ⟨safe after held, ih answer (only.2 answer) held⟩

theorem Runs.bind {program : Program Op Answer α} {rest : α → Program Op Answer β}
    {before middle after : σ} {value : α} {last : β} (first : env.Runs program before value middle)
    (second : env.Runs (rest value) middle last after) :
    env.Runs (program >>= rest) before last after := by
  induction first with
  | done => exact second
  | call step _ ih => exact Runs.call step (ih second)

theorem Runs.unbind {program : Program Op Answer α} {rest : α → Program Op Answer β}
    {before after : σ} {last : β} (run : env.Runs (program >>= rest) before last after) :
    ∃ value middle, env.Runs program before value middle ∧
      env.Runs (rest value) middle last after := by
  induction program generalizing before with
  | done value => exact ⟨value, before, Runs.done, run⟩
  | call op next ih =>
      cases run with
      | call step tail =>
          obtain ⟨value, middle, first, second⟩ := ih _ tail
          exact ⟨value, middle, Runs.call step first, second⟩

theorem Runs.observes {program : Program Op Answer α} {before after : σ} {value : α}
    (run : env.Runs program before value after) : env.Observes program before after := by
  induction run with
  | done => exact Observes.now
  | call step _ ih => exact Observes.later step ih

/-- A run that gets as far as a call of some kind and is left there, before the call has had
any effect. -/
inductive Stops (env : Environment Op Answer σ) (halts : Op → Prop) :
    Program Op Answer α → σ → σ → Prop where
  | here {op : Op} {next : Answer op → Program Op Answer α} {state : σ} (halted : halts op) :
      Stops env halts (.call op next) state state
  | later {op : Op} {next : Answer op → Program Op Answer α} {before middle seen : σ}
      {answer : Answer op} (step : env.step op before answer middle)
      (rest : Stops env halts (next answer) middle seen) :
      Stops env halts (.call op next) before seen

theorem Stops.observes {halts : Op → Prop} {program : Program Op Answer α} {before seen : σ}
    (stops : env.Stops halts program before seen) : env.Observes program before seen := by
  induction stops with
  | here => exact Observes.now
  | later step _ ih => exact Observes.later step ih

/-- What can be seen while that call is in progress. -/
theorem Stops.torn {halts : Op → Prop} {program : Program Op Answer α} {before here seen : σ}
    (stops : env.Stops halts program before here)
    (torn : ∀ op, halts op → env.torn op here seen) : env.Observes program before seen := by
  induction stops with
  | here halted => exact Observes.torn (torn _ halted)
  | later step _ ih => exact Observes.later step (ih torn)

theorem Stops.unbind {halts : Op → Prop} {program : Program Op Answer α}
    {rest : α → Program Op Answer β} {before seen : σ}
    (stops : env.Stops halts (program >>= rest) before seen) :
    env.Stops halts program before seen ∨
      ∃ value middle, env.Runs program before value middle ∧
        env.Stops halts (rest value) middle seen := by
  induction program generalizing before with
  | done value => exact .inr ⟨value, before, Runs.done, stops⟩
  | call op next ih =>
      cases stops with
      | here halted => exact .inl (Stops.here halted)
      | later step tail =>
          rcases ih _ tail with first | ⟨value, middle, first, second⟩
          · exact .inl (Stops.later step first)
          · exact .inr ⟨value, middle, Runs.call step first, second⟩

/-- A program that makes no such call does not get to one. -/
theorem Stops.not_only {halts : Op → Prop} {program : Program Op Answer α} {before seen : σ}
    (stops : env.Stops halts program before seen) (only : program.Only fun op => ¬ halts op) :
    False := by
  induction stops with
  | here halted => exact only.1 halted
  | later _ _ ih => exact ih (only.2 _)

theorem runs_exec {handler : (op : Op) → σ → Answer op × σ}
    (realizes : ∀ op state, env.step op state (handler op state).1 (handler op state).2)
    (program : Program Op Answer α) (state : σ) :
    env.Runs program state (program.exec handler state).1 (program.exec handler state).2 := by
  induction program generalizing state with
  | done value => exact Runs.done
  | call op next ih => exact Runs.call (realizes op state) (ih _ _)

theorem stops_exec {handler : (op : Op) → σ → Answer op × σ} {halts : Op → σ → Bool}
    {halting : Op → Prop} {program : Program Op Answer α} {state seen : σ}
    (realizes : ∀ op state, env.step op state (handler op state).1 (handler op state).2)
    (halted : ∀ op state, halts op state = true → halting op)
    (stops : program.stopAt handler halts state = some seen) :
    env.Stops halting program state seen := by
  induction program generalizing state with
  | done value => cases stops
  | call op next ih =>
      rw [Program.stopAt] at stops
      split at stops
      · rename_i here
        rw [← Option.some.inj stops]
        exact Stops.here (halted op state here)
      · exact Stops.later (realizes op state) (ih _ stops)

/-- A program of queries leaves the state alone and returns what the answers
determine. -/
theorem ensures_eval {program : Program Op Answer α} {post : α → σ → Prop} {state : σ}
    {queries : Op → Prop} {answers : (op : Op) → Answer op} (only : program.Only queries)
    (fixed : ∀ op answer after, queries op → env.step op state answer after →
      answer = answers op ∧ after = state)
    (holds : post (program.eval answers) state) : env.ensures program post state := by
  induction program with
  | done value => exact holds
  | call op next ih =>
      refine ⟨fun _ _ => trivial, ?_⟩
      intro answer after taken
      obtain ⟨rfl, rfl⟩ := fixed op answer after only.1 taken
      exact ⟨trivial, ih (answers op) (only.2 _) holds⟩

/-- The same environment, for the runs whose calls are all made in states that
`allowed` admits. -/
def restrict (env : Environment Op Answer σ) (allowed : Op → σ → Prop) :
    Environment Op Answer σ where
  step op before answer after := allowed op before ∧ env.step op before answer after
  torn op before seen := allowed op before ∧ env.torn op before seen

/-- What holds of all runs holds of those that meet a condition. -/
theorem wp_restrict {allowed : Op → σ → Prop} {invariant : σ → Prop}
    {program : Program Op Answer α} {post : α → σ → Prop} {state : σ}
    (holds : env.wp invariant program post state) :
    (env.restrict allowed).wp invariant program post state := by
  induction program generalizing state with
  | done value => exact holds
  | call op next ih =>
      refine ⟨fun seen torn => holds.1 seen torn.2, ?_⟩
      intro answer after step
      have afterStep := holds.2 answer after step.2
      exact ⟨afterStep.1, ih answer afterStep.2⟩

/-- The same environment, for the runs in which every call gets an answer that
`allowed` admits. -/
def answering (env : Environment Op Answer σ) (allowed : (op : Op) → σ → Answer op → Prop) :
    Environment Op Answer σ where
  step op before answer after := allowed op before answer ∧ env.step op before answer after
  torn := env.torn

theorem wp_answering {allowed : (op : Op) → σ → Answer op → Prop} {invariant : σ → Prop}
    {program : Program Op Answer α} {post : α → σ → Prop} {state : σ}
    (holds : env.wp invariant program post state) :
    (env.answering allowed).wp invariant program post state := by
  induction program generalizing state with
  | done value => exact holds
  | call op next ih =>
      refine ⟨holds.1, fun answer after step => ?_⟩
      have afterStep := holds.2 answer after step.2
      exact ⟨afterStep.1, ih answer afterStep.2⟩

/-- When all answers are admitted, nothing is restricted. -/
theorem wp_of_answering {allowed : (op : Op) → σ → Answer op → Prop} {invariant : σ → Prop}
    {program : Program Op Answer α} {post : α → σ → Prop} {state : σ}
    (all : ∀ op before answer, allowed op before answer)
    (holds : (env.answering allowed).wp invariant program post state) :
    env.wp invariant program post state := by
  induction program generalizing state with
  | done value => exact holds
  | call op next ih =>
      refine ⟨holds.1, ?_⟩
      intro answer after step
      have afterStep := holds.2 answer after ⟨all op state answer, step⟩
      exact ⟨afterStep.1, ih answer afterStep.2⟩

theorem runs_of_answering {allowed : (op : Op) → σ → Answer op → Prop}
    {program : Program Op Answer α} {before after : σ} {value : α}
    (run : (env.answering allowed).Runs program before value after) :
    env.Runs program before value after := by
  induction run with
  | done => exact Runs.done
  | call step _ ih => exact Runs.call step.2 ih

theorem runs_answering_mono {first second : (op : Op) → σ → Answer op → Prop}
    {program : Program Op Answer α} {before after : σ} {value : α}
    (weaker : ∀ op before answer, first op before answer → second op before answer)
    (run : (env.answering first).Runs program before value after) :
    (env.answering second).Runs program before value after := by
  induction run with
  | done => exact Runs.done
  | call step _ ih => exact Runs.call ⟨weaker _ _ _ step.1, step.2⟩ ih

theorem runs_obeys {handler : (op : Op) → σ → Answer op × σ} {check : Op → σ → Bool}
    {program : Program Op Answer α} {state : σ}
    (realizes : ∀ op state, env.step op state (handler op state).1 (handler op state).2)
    (obeys : program.obeys handler check state = true) :
    (env.restrict fun op before => check op before = true).Runs program state
      (program.exec handler state).1 (program.exec handler state).2 := by
  induction program generalizing state with
  | done value => exact Runs.done
  | call op next ih =>
      simp only [Program.obeys, Bool.and_eq_true] at obeys
      exact Runs.call ⟨obeys.1, realizes op state⟩ (ih _ obeys.2)

/-- The same, for a handler that the environment allows where the check passes. -/
theorem runs_checked {handler : (op : Op) → σ → Answer op × σ} {check : Op → σ → Bool}
    {program : Program Op Answer α} {state : σ}
    (realizes : ∀ op state, check op state = true →
      env.step op state (handler op state).1 (handler op state).2)
    (obeys : program.obeys handler check state = true) :
    env.Runs program state (program.exec handler state).1 (program.exec handler state).2 := by
  induction program generalizing state with
  | done value => exact Runs.done
  | call op next ih =>
      simp only [Program.obeys, Bool.and_eq_true] at obeys
      exact Runs.call (realizes op state obeys.1) (ih _ obeys.2)

/-- The same for a run that stops. -/
theorem stops_checked {handler : (op : Op) → σ → Answer op × σ} {halts check : Op → σ → Bool}
    {halting : Op → Prop} {program : Program Op Answer α} {state seen : σ}
    (realizes : ∀ op state, check op state = true →
      env.step op state (handler op state).1 (handler op state).2)
    (obeys : program.obeys handler check state = true)
    (halted : ∀ op state, halts op state = true → halting op)
    (stops : program.stopAt handler halts state = some seen) :
    env.Stops halting program state seen := by
  induction program generalizing state with
  | done value => cases stops
  | call op next ih =>
      simp only [Program.obeys, Bool.and_eq_true] at obeys
      rw [Program.stopAt] at stops
      split at stops
      · rename_i here
        rw [← Option.some.inj stops]
        exact Stops.here (halted op state here)
      · exact Stops.later (realizes op state obeys.1) (ih _ obeys.2 stops)

/-- The same environment, with the calls and their answers on record. -/
structure Event (Op : Type) (Answer : Op → Type) where
  op : Op
  answer : Answer op

/-- The state of an environment with everything that has been asked of it so far and what it
answered. -/
structure Recorded (Op : Type) (Answer : Op → Type) (σ : Type) where
  state : σ
  trace : List (Event Op Answer) := []

/-- The same environment with a record of its calls. A property of the history of a run is
then one of the state it ends in. -/
def recorded (env : Environment Op Answer σ) :
    Environment Op Answer (Recorded Op Answer σ) where
  step op before answer after :=
    env.step op before.state answer after.state ∧
      after.trace = before.trace ++ [{ op := op, answer := answer }]

@[simp] theorem ensures_recorded_ask {op : Op}
    {post : Answer op → Recorded Op Answer σ → Prop} {before : Recorded Op Answer σ} :
    env.recorded.ensures (.ask op) post before ↔
      ∀ answer after, env.step op before.state answer after →
        post answer
          { state := after, trace := before.trace ++ [{ op := op, answer := answer }] } := by
  rw [ensures_ask]
  constructor
  · intro holds answer after step
    exact holds answer _ ⟨step, rfl⟩
  · intro holds answer after step
    obtain ⟨state, trace⟩ := after
    obtain ⟨taken, recorded⟩ := step
    simp only at taken recorded
    rw [recorded]
    exact holds answer state taken

/-- What a program ensures, it ensures with its calls on record. -/
theorem ensures_recorded {program : Program Op Answer α} {post : α → σ → Prop}
    {before : Recorded Op Answer σ} :
    env.recorded.ensures program (fun value after => post value after.state) before ↔
      env.ensures program post before.state := by
  induction program generalizing before with
  | done value => rfl
  | call op next ih =>
      constructor
      · intro holds
        refine ⟨fun _ _ => trivial, fun answer after step => ⟨trivial, ?_⟩⟩
        have taken : env.recorded.step op before answer
            ⟨after, before.trace ++ [⟨op, answer⟩]⟩ := ⟨step, rfl⟩
        exact (ih answer).mp (holds.2 answer _ taken).2
      · intro holds
        refine ⟨fun _ _ => trivial, fun answer after step => ⟨trivial, ?_⟩⟩
        exact (ih answer).mpr (holds.2 answer after.state step.1).2

/-- Every run can be put on record. -/
theorem Runs.recorded {program : Program Op Answer α} {before after : σ} {value : α}
    (run : env.Runs program before value after) (trace : List (Event Op Answer)) :
    ∃ later, env.recorded.Runs program ⟨before, trace⟩ value ⟨after, later⟩ := by
  induction run generalizing trace with
  | done => exact ⟨trace, Runs.done⟩
  | @call op _ _ middle _ answer _ step _ ih =>
      obtain ⟨later, rest⟩ := ih (trace ++ [⟨op, answer⟩])
      have taken : env.recorded.step op ⟨_, trace⟩ answer ⟨middle, trace ++ [⟨op, answer⟩]⟩ :=
        ⟨step, rfl⟩
      exact ⟨later, Runs.call taken rest⟩

def recordingHandler (handler : (op : Op) → σ → Answer op × σ) (op : Op)
    (before : Recorded Op Answer σ) : Answer op × Recorded Op Answer σ :=
  let result := handler op before.state
  (result.1,
    { state := result.2, trace := before.trace ++ [{ op := op, answer := result.1 }] })

theorem recordingHandler_realizes {handler : (op : Op) → σ → Answer op × σ}
    (realizes : ∀ op state, env.step op state (handler op state).1 (handler op state).2)
    (op : Op) (before : Recorded Op Answer σ) :
    env.recorded.step op before (recordingHandler handler op before).1
      (recordingHandler handler op before).2 :=
  ⟨realizes op before.state, rfl⟩

end Environment

end LayoutAdblock.Interaction
