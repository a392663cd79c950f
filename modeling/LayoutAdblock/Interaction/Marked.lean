import LayoutAdblock.Interaction.Environment

namespace LayoutAdblock.Interaction

/-! # Programs with marks

A mark says where a program stands and changes nothing that the program sees.
Without its marks a program makes the same calls and returns the same value.
-/

open Environment

/-- A call or a mark. A mark asks nothing of anyone; it stands for a place in the program. -/
inductive MarkedOp (Op Mark : Type) where
  | call (op : Op)
  | mark (mark : Mark)

/-- What a call is answered; a mark is only noticed. -/
@[reducible] def MarkedAnswer {Op Mark : Type} (Answer : Op → Type) : MarkedOp Op Mark → Type
  | .call op => Answer op
  | .mark _ => Unit

/-- A program with marks at some of its places. -/
abbrev Marked (Op : Type) (Answer : Op → Type) (Mark α : Type) :=
  Program (MarkedOp Op Mark) (MarkedAnswer Answer) α

variable {Op Mark : Type} {Answer : Op → Type} {σ τ α β : Type}

namespace Marked

def plain : Program Op Answer α → Marked Op Answer Mark α
  | .done value => .done value
  | .call op next => .call (.call op) fun answer => plain (next answer)

theorem plain_bind (program : Program Op Answer α) (rest : α → Program Op Answer β) :
    (plain (program >>= rest) : Marked Op Answer Mark β) =
      plain program >>= fun value => plain (rest value) := by
  induction program with
  | done value => rfl
  | call op next ih => simp only [Program.call_bind, plain, ih]

def mark (what : Mark) : Marked Op Answer Mark Unit :=
  .call (.mark what) fun _ => .done ()

/-- The program without its marks, which is what runs. -/
def erase : Marked Op Answer Mark α → Program Op Answer α
  | .done value => .done value
  | .call (.call op) next => .call op fun answer => erase (next answer)
  | .call (.mark _) next => erase (next ())

@[simp] theorem erase_done (value : α) :
    erase (.done value : Marked Op Answer Mark α) = .done value := rfl

@[simp] theorem erase_mark (what : Mark) :
    erase (mark what : Marked Op Answer Mark Unit) = .done () := rfl

@[simp] theorem erase_plain (program : Program Op Answer α) :
    erase (plain program : Marked Op Answer Mark α) = program := by
  induction program with
  | done value => rfl
  | call op next ih => simp only [plain, erase, ih]

@[simp] theorem erase_bind (program : Marked Op Answer Mark α)
    (rest : α → Marked Op Answer Mark β) :
    erase (program >>= rest) = erase program >>= fun value => erase (rest value) := by
  induction program with
  | done value => rfl
  | call op next ih =>
      cases op with
      | call op => simp only [Program.call_bind, erase, ih]
      | mark what => simp only [Program.call_bind, erase, ih]

@[simp] theorem erase_forEach (body : α → Marked Op Answer Mark Unit) (items : List α) :
    erase (Program.forEach body items) = Program.forEach (fun item => erase (body item)) items := by
  induction items with
  | nil => rfl
  | cons head rest ih => simp only [Program.forEach, erase_bind, ih]

/-- What a call may do holds of it among the marks. -/
theorem only_plain {allowed : Op → Prop} {lifted : MarkedOp Op Mark → Prop}
    {program : Program Op Answer α} (only : program.Only allowed)
    (each : ∀ op, allowed op → lifted (.call op)) :
    (plain program : Marked Op Answer Mark α).Only lifted := by
  induction program with
  | done value => trivial
  | call op next ih => exact ⟨each op only.1, fun answer => ih answer (only.2 answer)⟩

def called (event : Event Op Answer) :
    Event (MarkedOp Op Mark) (MarkedAnswer Answer) where
  op := .call event.op
  answer := event.answer

def noted (what : Mark) : Event (MarkedOp Op Mark) (MarkedAnswer Answer) where
  op := .mark what
  answer := ()

/-- The calls of a record, without the marks between them. -/
def calls : List (Event (MarkedOp Op Mark) (MarkedAnswer Answer)) → List (Event Op Answer)
  | [] => []
  | ⟨.call op, answer⟩ :: rest => ⟨op, answer⟩ :: calls rest
  | ⟨.mark _, _⟩ :: rest => calls rest

@[simp] theorem calls_append
    (first second : List (Event (MarkedOp Op Mark) (MarkedAnswer Answer))) :
    calls (first ++ second) = calls first ++ calls second := by
  induction first with
  | nil => rfl
  | cons event rest ih =>
      obtain ⟨op, answer⟩ := event
      cases op with
      | call op => simp only [List.cons_append, calls, ih]
      | mark what => simp only [List.cons_append, calls, ih]

end Marked

namespace Environment

/-- An environment that records the marks in its state. -/
def marked (env : Environment Op Answer σ) (see : Mark → σ → σ) :
    Environment (MarkedOp Op Mark) (MarkedAnswer Answer) σ where
  step
    | .call op, before, answer, after => env.step op before answer after
    | .mark what, before, _, after => after = see what before
  torn
    | .call op, before, seen => env.torn op before seen
    | .mark _, _, _ => False

variable {env : Environment Op Answer σ} {see : Mark → σ → σ} {invariant : σ → Prop} {state : σ}

theorem wp_plain {program : Program Op Answer α} {post : α → σ → Prop}
    (holds : env.wp invariant program post state) :
    (env.marked see).wp invariant (Marked.plain program) post state := by
  induction program generalizing state with
  | done value => exact holds
  | call op next ih =>
      refine ⟨holds.1, ?_⟩
      intro answer after step
      have afterStep := holds.2 answer after step
      exact ⟨afterStep.1, ih answer afterStep.2⟩

theorem wp_mark {what : Mark} {post : Unit → σ → Prop} (safe : invariant (see what state))
    (holds : post () (see what state)) :
    (env.marked see).wp invariant (Marked.mark what) post state := by
  refine ⟨fun _ torn => torn.elim, ?_⟩
  intro _ after step
  obtain rfl : after = see what state := step
  exact ⟨safe, holds⟩

theorem ensures_recorded_plain_from {program : Program Op Answer α}
    {post : α → Recorded (MarkedOp Op Mark) (MarkedAnswer Answer) σ → Prop}
    {trace : List (Event (MarkedOp Op Mark) (MarkedAnswer Answer))}
    {made : List (Event Op Answer)} {state : σ}
    (holds : env.recorded.ensures program
      (fun value after => post value ⟨after.state, trace ++ after.trace.map Marked.called⟩)
      ⟨state, made⟩) :
    (env.marked see).recorded.ensures (Marked.plain program) post
      ⟨state, trace ++ made.map Marked.called⟩ := by
  induction program generalizing state made with
  | done value => exact holds
  | call op next ih =>
      refine ⟨fun _ _ => trivial, fun answer after step => ⟨trivial, ?_⟩⟩
      obtain ⟨taken, written⟩ := step
      let event : Event Op Answer := ⟨op, answer⟩
      have recorded : after = ⟨after.state, trace ++ (made ++ [event]).map Marked.called⟩ := by
        rw [List.map_append, ← List.append_assoc]
        exact congrArg (Recorded.mk after.state) written
      rw [recorded]
      have step : env.recorded.step op ⟨state, made⟩ answer ⟨after.state, made ++ [event]⟩ :=
        ⟨taken, rfl⟩
      exact ih answer (holds.2 answer _ step).2

/-- What a program adds to an empty record, it adds to a record with marks. -/
theorem ensures_recorded_plain {program : Program Op Answer α}
    {post : α → Recorded (MarkedOp Op Mark) (MarkedAnswer Answer) σ → Prop}
    {before : Recorded (MarkedOp Op Mark) (MarkedAnswer Answer) σ}
    (holds : env.recorded.ensures program
      (fun value after =>
        post value ⟨after.state, before.trace ++ after.trace.map Marked.called⟩)
      ⟨before.state, []⟩) :
    (env.marked see).recorded.ensures (Marked.plain program) post before := by
  have lifted := @ensures_recorded_plain_from _ _ _ _ _ _ see _ post before.trace [] _ holds
  rw [List.map_nil, List.append_nil] at lifted
  exact lifted

theorem ensures_recorded_mark {what : Mark}
    {post : Unit → Recorded (MarkedOp Op Mark) (MarkedAnswer Answer) σ → Prop}
    {before : Recorded (MarkedOp Op Mark) (MarkedAnswer Answer) σ}
    (holds : post () ⟨see what before.state, before.trace ++ [Marked.noted what]⟩) :
    (env.marked see).recorded.ensures (Marked.mark what) post before := by
  refine ensures_recorded_ask.mpr fun answer after step => ?_
  obtain rfl : after = see what before.state := step
  exact holds

/-- A run on record is a run of the program with its marks on record as well. -/
theorem runs_recorded_marks {program : Marked Op Answer Mark α}
    {before after : Recorded Op Answer σ} {value : α}
    (run : env.recorded.Runs program.erase before value after)
    {earlier : List (Event (MarkedOp Op Mark) (MarkedAnswer Answer))}
    (same : Marked.calls earlier = before.trace) :
    ∃ later, Marked.calls later = after.trace ∧
      (env.marked fun (_ : Mark) state => state).recorded.Runs program ⟨before.state, earlier⟩
        value ⟨after.state, later⟩ := by
  induction program generalizing before earlier with
  | done value =>
      cases run
      exact ⟨earlier, same, Runs.done⟩
  | call op next ih =>
      cases op with
      | call op =>
          cases run with
          | @call _ _ _ middle _ answer _ step rest =>
              obtain ⟨taken, written⟩ := step
              have calls : Marked.calls (earlier ++ [Marked.called ⟨op, answer⟩]) =
                  middle.trace := by
                rw [Marked.calls_append, same, written]
                rfl
              obtain ⟨later, ends, ran⟩ := ih answer rest calls
              have step : (env.marked fun (_ : Mark) state => state).recorded.step (.call op)
                  ⟨before.state, earlier⟩ answer
                  ⟨middle.state, earlier ++ [Marked.called ⟨op, answer⟩]⟩ := ⟨taken, rfl⟩
              exact ⟨later, ends, Runs.call step ran⟩
      | mark what =>
          have calls : Marked.calls (earlier ++ [Marked.noted what]) = before.trace := by
            rw [Marked.calls_append, same]
            exact List.append_nil _
          obtain ⟨later, ends, ran⟩ := ih () run calls
          have step : (env.marked fun (_ : Mark) state => state).recorded.step (.mark what)
              ⟨before.state, earlier⟩ () ⟨before.state, earlier ++ [Marked.noted what]⟩ :=
            ⟨rfl, rfl⟩
          exact ⟨later, ends, Runs.call step ran⟩

/-- Every run of a program is a run with its marks. -/
theorem runs_of_erase {real : Environment Op Answer τ} {view : σ → τ}
    (unseen : ∀ what state, view (see what state) = view state)
    (lifts : ∀ op before answer after, real.step op (view before) answer after →
      ∃ next, env.step op before answer next ∧ view next = after)
    {program : Marked Op Answer Mark α} {before : σ} {value : α} {after : τ}
    (run : real.Runs program.erase (view before) value after) :
    ∃ last, (env.marked see).Runs program before value last ∧ view last = after := by
  induction program generalizing before with
  | done value =>
      cases run
      exact ⟨before, Runs.done, rfl⟩
  | call op next ih =>
      cases op with
      | call op =>
          cases run with
          | call step rest =>
              obtain ⟨middle, taken, same⟩ := lifts _ _ _ _ step
              subst same
              obtain ⟨last, ran, ends⟩ := ih _ rest
              have step : (env.marked see).step (.call op) before _ middle := taken
              exact ⟨last, Runs.call step ran, ends⟩
      | mark what =>
          rw [Marked.erase, ← unseen what] at run
          obtain ⟨last, ran, ends⟩ := ih () run
          have step : (env.marked see).step (.mark what) before () (see what before) := rfl
          exact ⟨last, Runs.call step ran, ends⟩

end Environment

end LayoutAdblock.Interaction
