import Mathlib.Logic.Function.Basic
import Mathlib.Logic.Relation
import LayoutAdblock.Interaction.Precedence

namespace LayoutAdblock.Interaction

/-! # Named mutexes

A mutex object of the operating system that processes open by name.  It exists
as long as some process has a handle to it, and a process that ends loses its
handle and what it owns.
-/

/-- A call about a named mutex, or one of the program itself. Waiting is limited in time,
and the last error tells a creator whether the mutex had existed. -/
inductive MutexCall (Op : Type) where
  | create (initialOwner : Bool)
  /-- The error of the last creation. -/
  | lastError
  /-- Wait for a limited time. -/
  | wait
  | release
  | close
  | inner (op : Op)

/-- What a call about the mutex answers: whether there is a mutex, whether it was acquired,
and the last error. -/
@[reducible] def MutexAnswer {Op : Type} (Answer : Op → Type) : MutexCall Op → Type
  | .create _ | .wait => Bool
  | .lastError => Nat
  | .release | .close => Unit
  | .inner op => Answer op

abbrev MutexProgram (Op : Type) (Answer : Op → Type) (α : Type) :=
  Program (MutexCall Op) (MutexAnswer Answer) α

/-- The last error of Windows after a mutex was opened that already existed. -/
def errorAlreadyExists : Nat := 183

/-- The named mutex of the system: which processes have a handle of it, which one owns it,
and the last error of each process. -/
structure NamedMutex (ι : Type) where
  opened : ι → Bool := fun _ => false
  owner : Option ι := none
  error : ι → Nat := fun _ => 0

variable {Op : Type} {Answer : Op → Type} {ι σ α β : Type} [DecidableEq ι]

namespace NamedMutex

omit [DecidableEq ι] in
/-- Windows keeps the mutex while some process has it open. -/
def Present (mutex : NamedMutex ι) : Prop := ∃ process, mutex.opened process = true

def join (mutex : NamedMutex ι) (process : ι) : NamedMutex ι :=
  { mutex with
    opened := Function.update mutex.opened process true
    error := Function.update mutex.error process errorAlreadyExists }

def found (mutex : NamedMutex ι) (process : ι) (initialOwner : Bool) : NamedMutex ι where
  opened := Function.update mutex.opened process true
  owner := if initialOwner then some process else none
  error := Function.update mutex.error process 0

/-- One handle is closed, the last one with the object. -/
structure Shuts (process : ι) (before after : NamedMutex ι) : Prop where
  opened : after.opened = Function.update before.opened process false
  error : after.error = before.error
  kept : after.Present → after.owner = before.owner
  lost : ¬ after.Present → after.owner = none

/-- What a process owns when it ends is abandoned, so that the next one that waits gets it. -/
def abandon (mutex : NamedMutex ι) (process : ι) : NamedMutex ι :=
  { mutex with owner := if mutex.owner = some process then none else mutex.owner }

/-- The calls of one process; the inner calls are not about the mutex. -/
def Step (process : ι) (before : NamedMutex ι) :
    (call : MutexCall Op) → MutexAnswer Answer call → NamedMutex ι → Prop
  | .create initialOwner, created, after =>
      created = false ∧ after = before ∨
        created = true ∧ (before.Present ∧ after = before.join process ∨
          ¬ before.Present ∧ after = before.found process initialOwner)
  | .lastError, error, after => error = before.error process ∧ after = before
  | .wait, acquired, after =>
      acquired = false ∧ after = before ∨
        acquired = true ∧ (before.owner = none ∨ before.owner = some process) ∧
          after = { before with owner := some process }
  | .release, _, after => after = before.abandon process
  | .close, _, after => Shuts process before after
  | .inner _, _, after => after = before

end NamedMutex

/-- Processes that share a state and a named mutex. One that has ended makes no call,
wherever it was in its program. -/
structure Processes (Op : Type) (Answer : Op → Type) (σ α ι : Type) where
  mutex : NamedMutex ι := {}
  state : σ
  programs : ι → MutexProgram Op Answer α
  ended : ι → Bool := fun _ => false

namespace Processes

/-- One process goes on with the rest of its program, with the mutex and the state as its
call left them. -/
def proceed (processes : Processes Op Answer σ α ι) (process : ι) (mutex : NamedMutex ι) (state : σ)
    (rest : MutexProgram Op Answer α) : Processes Op Answer σ α ι where
  mutex := mutex
  state := state
  programs := Function.update processes.programs process rest
  ended := processes.ended

/-- A process ends, by itself or by force, and Windows closes what it had open. -/
def finish (processes : Processes Op Answer σ α ι) (process : ι) (mutex : NamedMutex ι) :
    Processes Op Answer σ α ι where
  mutex := mutex
  state := processes.state
  programs := processes.programs
  ended := Function.update processes.ended process true

section

variable (processes : Processes Op Answer σ α ι) {process other : ι} {mutex : NamedMutex ι}
  {state : σ} {rest : MutexProgram Op Answer α}

@[simp] theorem proceed_mutex :
    (processes.proceed process mutex state rest).mutex = mutex := rfl

@[simp] theorem proceed_state :
    (processes.proceed process mutex state rest).state = state := rfl

@[simp] theorem proceed_ended :
    (processes.proceed process mutex state rest).ended = processes.ended := rfl

@[simp] theorem proceed_self :
    (processes.proceed process mutex state rest).programs process = rest :=
  Function.update_self ..

theorem proceed_other (different : other ≠ process) :
    (processes.proceed process mutex state rest).programs other = processes.programs other :=
  Function.update_of_ne different ..

@[simp] theorem finish_mutex : (processes.finish process mutex).mutex = mutex := rfl

@[simp] theorem finish_state : (processes.finish process mutex).state = processes.state := rfl

@[simp] theorem finish_programs :
    (processes.finish process mutex).programs = processes.programs := rfl

@[simp] theorem finish_self : (processes.finish process mutex).ended process = true :=
  Function.update_self ..

theorem finish_other (different : other ≠ process) :
    (processes.finish process mutex).ended other = processes.ended other :=
  Function.update_of_ne different ..

end

/-- What the inner calls do to the rest of the state, and which processes can be ended from
outside, given the mutex. -/
structure World (Op : Type) (Answer : Op → Type) (σ ι : Type) where
  step : ι → (op : Op) → σ → Answer op → σ → Prop
  mayEnd : NamedMutex ι → ι → Prop

/-- A process makes its next call, to the mutex or an inner one, or it is ended from outside
and its handle is closed for it. -/
inductive Step (world : World Op Answer σ ι) :
    Processes Op Answer σ α ι → Processes Op Answer σ α ι → Prop where
  | calls {processes : Processes Op Answer σ α ι} {process : ι} {call : MutexCall Op}
      {next : MutexAnswer Answer call → MutexProgram Op Answer α}
      {answer : MutexAnswer Answer call} {mutex : NamedMutex ι}
      (runs : processes.ended process = false)
      (pending : processes.programs process = .call call next)
      (outer : ∀ op, call ≠ .inner op)
      (taken : processes.mutex.Step process call answer mutex) :
      Step world processes (processes.proceed process mutex processes.state (next answer))
  | works {processes : Processes Op Answer σ α ι} {process : ι} {op : Op}
      {next : Answer op → MutexProgram Op Answer α} {answer : Answer op} {state : σ}
      (runs : processes.ended process = false)
      (pending : processes.programs process = .call (.inner op) next)
      (taken : world.step process op processes.state answer state) :
      Step world processes (processes.proceed process processes.mutex state (next answer))
  | ends {processes : Processes Op Answer σ α ι} {process : ι} {mutex : NamedMutex ι}
      (runs : processes.ended process = false)
      (may : world.mayEnd processes.mutex process)
      (shuts : (processes.mutex.abandon process).Shuts process mutex) :
      Step world processes (processes.finish process mutex)

/-- Any number of steps of any of the processes. -/
abbrev Reach (world : World Op Answer σ ι) :
    Processes Op Answer σ α ι → Processes Op Answer σ α ι → Prop :=
  Relation.ReflTransGen (Step world)

end Processes

def inside (program : Program Op Answer α) : MutexProgram Op Answer α :=
  program.translate fun op => (.call (.inner op) .done : MutexProgram Op Answer (Answer op))

@[simp] theorem inside_done (value : α) :
    (inside (.done value : Program Op Answer α)) = .done value := rfl

@[simp] theorem inside_call (op : Op) (next : Answer op → Program Op Answer α) :
    inside (.call op next) = .call (.inner op) fun answer => inside (next answer) := rfl

end LayoutAdblock.Interaction
