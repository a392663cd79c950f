import LayoutAdblock.Interaction.NamedMutex

namespace LayoutAdblock.App

open Interaction

/-! # One instance at a time

`InstanceMutex` is held from its creation until the process drops it or ends.
What the program does in between is not looked at here.
-/

variable {Op : Type} {Answer : Op → Type} {σ ι : Type}

/-- A call of the process to Windows about the named mutex. -/
def mutexCall (call : MutexCall Op) : MutexProgram Op Answer (MutexAnswer Answer call) :=
  Program.ask call

/-- `InstanceMutex::acquire_named`; whether there is a guard. A mutex that existed before is
closed again at once, since another instance has it. -/
def acquireNamed : MutexProgram Op Answer Bool := do
  let created ← mutexCall (.create true)
  if created then
    let error ← mutexCall .lastError
    if error = errorAlreadyExists then
      mutexCall .close
      return false
    else return true
  else return false

def dropInstance : MutexProgram Op Answer Unit := mutexCall .close

/-- What is left of a process that has the guard. -/
def guarded (rest : Program Op Answer Unit) : MutexProgram Op Answer Unit := do
  inside rest
  dropInstance

/-- A process of the app, from `run_with_args`. It does its work only with the guard of the
mutex, which it drops when the work is over. -/
def launch (run : Program Op Answer Unit) : MutexProgram Op Answer Unit := do
  let acquired ← acquireNamed
  if acquired then guarded run else return ()

def checkCreated (run : Program Op Answer Unit) (error : Nat) : MutexProgram Op Answer Unit :=
  if error = errorAlreadyExists then dropInstance else guarded run

/-- What a process does once it has tried to create the mutex. Only the last error tells
whether the mutex had been there before. -/
def afterCreate (run : Program Op Answer Unit) (created : Bool) : MutexProgram Op Answer Unit :=
  if created then .call .lastError (checkCreated run) else .done ()

theorem launch_eq (run : Program Op Answer Unit) :
    launch run = .call (.create true) (afterCreate run) := by
  refine congrArg (Program.call _) (funext fun created => ?_)
  cases created with
  | false => rfl
  | true =>
      refine congrArg (Program.call _) (funext fun error => ?_)
      by_cases exists_ : error = errorAlreadyExists
      · subst exists_
        rfl
      · simp [checkCreated, exists_, Program.bind]

/-- The program of a process and whether it has a handle: it is about to start, has created
the mutex, runs the app with the guard, or is through. -/
inductive Stage (run : Program Op Answer Unit) : Bool → MutexProgram Op Answer Unit → Prop where
  | start : Stage run false (launch run)
  | created : Stage run true (.call .lastError (checkCreated run))
  | running (rest : Program Op Answer Unit) : Stage run true (guarded rest)
  | through : Stage run false (.done ())

/-- The process is in the part that only one may run. -/
def Working (program : MutexProgram Op Answer Unit) : Prop :=
  ∃ op next, program = .call (.inner op) next

theorem not_working_launch (run : Program Op Answer Unit) : ¬ Working (launch run) := by
  rintro ⟨op, next, same⟩
  rw [launch_eq] at same
  cases same

theorem guarded_call (op : Op) (next : Answer op → Program Op Answer Unit) :
    guarded (.call op next) = .call (.inner op) fun answer => guarded (next answer) := rfl

section Runs

variable [DecidableEq ι] {run : ι → Program Op Answer Unit} {world : Processes.World Op Answer σ ι}
  {processes later : Processes Op Answer σ Unit ι} {process other : ι}

def Winner (run : ι → Program Op Answer Unit) (processes : Processes Op Answer σ Unit ι)
    (process : ι) : Prop :=
  processes.ended process = false ∧
    (Working (processes.programs process) ∨
      processes.programs process = .call .lastError (checkCreated (run process)) ∧
        processes.mutex.error process ≠ errorAlreadyExists)

/-- Every process is at a known stage of its start, none that has ended has the mutex open,
and at most one of them was the first to create it. -/
structure Exclusive (run : ι → Program Op Answer Unit)
    (processes : Processes Op Answer σ Unit ι) : Prop where
  stage : ∀ process, processes.ended process = false →
    Stage (run process) (processes.mutex.opened process) (processes.programs process)
  closed : ∀ process, processes.ended process = true → processes.mutex.opened process = false
  unique : ∀ first second, Winner run processes first → Winner run processes second →
    first = second

def launches (run : ι → Program Op Answer Unit) (state : σ) : Processes Op Answer σ Unit ι where
  state := state
  programs process := launch (run process)

omit [DecidableEq ι] in
theorem launches_exclusive {state : σ} : Exclusive run (launches run state) where
  stage _ _ := .start
  closed _ ended := Bool.noConfusion ended
  unique first _ winner _ := by
    rcases winner.2 with works | checks
    · exact absurd works (not_working_launch _)
    · have same : launch (run first) = _ := checks.1
      rw [launch_eq] at same
      cases same

omit [DecidableEq ι] in
theorem Stage.opened {run : Program Op Answer Unit} {opened : Bool}
    {program : MutexProgram Op Answer Unit} (stage : Stage run opened program)
    (begun : program ≠ launch run) (goes : program ≠ .done ()) : opened = true := by
  cases stage with
  | start => exact absurd rfl begun
  | through => exact absurd rfl goes
  | created => rfl
  | running => rfl

omit [DecidableEq ι] in
/-- A winner has a handle. -/
theorem Exclusive.opened (exclusive : Exclusive run processes)
    (winner : Winner run processes process) : processes.mutex.opened process = true := by
  apply (exclusive.stage process winner.1).opened
  · intro same
    rcases winner.2 with works | checks
    · rw [same] at works
      exact not_working_launch _ works
    · have other := checks.1
      rw [same, launch_eq] at other
      cases other
  · intro same
    rcases winner.2 with works | checks
    · rw [same] at works
      obtain ⟨op, next, impossible⟩ := works
      cases impossible
    · have other := checks.1
      rw [same] at other
      cases other

/-- The calls that a stage can make. -/
inductive StageCall (run : Program Op Answer Unit) : Bool → (call : MutexCall Op) →
    (MutexAnswer Answer call → MutexProgram Op Answer Unit) → Prop where
  | create : StageCall run false (.create true) (afterCreate run)
  | lastError : StageCall run true .lastError (checkCreated run)
  | inner (op : Op) (next : Answer op → Program Op Answer Unit) :
      StageCall run true (.inner op) fun answer => guarded (next answer)
  | close : StageCall run true .close .done

theorem Stage.calls {run : Program Op Answer Unit} {opened : Bool} {call : MutexCall Op}
    {next : MutexAnswer Answer call → MutexProgram Op Answer Unit}
    (stage : Stage run opened (.call call next)) : StageCall run opened call next := by
  generalize same : Program.call call next = program at stage
  cases stage with
  | start =>
      rw [launch_eq] at same
      cases same
      exact .create
  | created =>
      cases same
      exact .lastError
  | through => cases same
  | running rest =>
      cases rest with
      | done value =>
          cases same
          exact .close
      | call op inner =>
          cases same
          exact .inner op inner

/-- What one process does is nothing to the others. -/
theorem Exclusive.proceed (exclusive : Exclusive run processes) {mutex : NamedMutex ι} {state : σ}
    {rest : MutexProgram Op Answer Unit} (runs : processes.ended process = false)
    (stage : Stage (run process) (mutex.opened process) rest)
    (opened : ∀ other, other ≠ process → mutex.opened other = processes.mutex.opened other)
    (error : ∀ other, other ≠ process → mutex.error other = processes.mutex.error other)
    (wins : Winner run (processes.proceed process mutex state rest) process →
      Winner run processes process ∨ ∀ other, ¬ Winner run processes other) :
    Exclusive run (processes.proceed process mutex state rest) := by
  have apart : ∀ other, other ≠ process →
      Winner run (processes.proceed process mutex state rest) other →
      Winner run processes other := by
    intro other different winner
    unfold Winner at winner
    rw [processes.proceed_other different, Processes.proceed_ended, Processes.proceed_mutex,
      error other different] at winner
    exact winner
  refine ⟨fun other alive => ?_, fun other ended => ?_, fun first second left right => ?_⟩
  · by_cases same : other = process
    · subst same
      rw [Processes.proceed_self]
      exact stage
    · rw [processes.proceed_other same, Processes.proceed_mutex, opened other same]
      exact exclusive.stage other alive
  · have different : other ≠ process := by
      rintro rfl
      rw [Processes.proceed_ended, runs] at ended
      cases ended
    rw [Processes.proceed_mutex, opened other different]
    exact exclusive.closed other ended
  · by_cases isFirst : first = process
    · by_cases isSecond : second = process
      · rw [isFirst, isSecond]
      · subst isFirst
        have other := apart second isSecond right
        cases wins left with
        | inl already => exact exclusive.unique _ _ already other
        | inr none => exact absurd other (none second)
    · have one := apart first isFirst left
      by_cases isSecond : second = process
      · subst isSecond
        cases wins right with
        | inl already => exact exclusive.unique _ _ one already
        | inr none => exact absurd one (none first)
      · exact exclusive.unique _ _ one (apart second isSecond right)

theorem not_working_done : ¬ Working (.done () : MutexProgram Op Answer Unit) := by
  rintro ⟨op, next, same⟩
  cases same

/-- A process that is through is no winner. -/
theorem not_winner_through {mutex : NamedMutex ι} {state : σ} :
    ¬ Winner run (processes.proceed process mutex state (.done ())) process := by
  intro winner
  rw [Winner, Processes.proceed_self] at winner
  cases winner.2 with
  | inl works => exact not_working_done works
  | inr checks => cases checks.1

theorem Exclusive.closes (exclusive : Exclusive run processes) {mutex : NamedMutex ι} (state : σ)
    (runs : processes.ended process = false) (shuts : processes.mutex.Shuts process mutex) :
    Exclusive run (processes.proceed process mutex state (.done ())) := by
  have opens : ∀ other, mutex.opened other =
      Function.update processes.mutex.opened process false other :=
    fun other => congrFun shuts.opened other
  apply exclusive.proceed runs
  · rw [opens, Function.update_self]
    exact .through
  · intro other different
    rw [opens, Function.update_of_ne different]
  · intro other _
    rw [shuts.error]
  · intro winner
    exact absurd winner not_winner_through

/-- The process that finds its creation to be the first one works; it was a winner
before. -/
theorem Exclusive.checks (exclusive : Exclusive run processes) (state : σ)
    (runs : processes.ended process = false)
    (pending : processes.programs process = .call .lastError (checkCreated (run process)))
    (has : processes.mutex.opened process = true) :
    Exclusive run (processes.proceed process processes.mutex state
      (checkCreated (run process) (processes.mutex.error process))) := by
  apply exclusive.proceed runs
  · rw [has, checkCreated]
    split
    · exact .running (.done ())
    · exact .running _
  · intro other _
    rfl
  · intro other _
    rfl
  · intro winner
    left
    refine ⟨runs, Or.inr ⟨pending, fun exists_ => ?_⟩⟩
    rw [Winner, Processes.proceed_self, checkCreated, if_pos exists_] at winner
    rcases winner.2 with works | checks
    · obtain ⟨op, next, impossible⟩ := works
      cases impossible
    · cases checks.1

/-- Only the process that creates the object can be the new winner, and before that there
was none. -/
theorem Exclusive.creates (exclusive : Exclusive run processes) {created : Bool}
    {mutex : NamedMutex ι} (state : σ) (runs : processes.ended process = false)
    (has : processes.mutex.opened process = false)
    (taken : @NamedMutex.Step Op Answer ι _ process processes.mutex (.create true) created
      mutex) :
    Exclusive run (processes.proceed process mutex state (afterCreate (run process) created)) := by
  rcases taken with ⟨rfl, rfl⟩ | ⟨rfl, ⟨_, rfl⟩ | ⟨absent, rfl⟩⟩
  · apply exclusive.proceed runs
    · rw [has]
      exact .through
    · intro other _
      rfl
    · intro other _
      rfl
    · intro winner
      exact absurd winner not_winner_through
  · apply exclusive.proceed runs
    · simp only [NamedMutex.join, Function.update_self]
      exact .created
    · intro other different
      exact Function.update_of_ne different ..
    · intro other different
      exact Function.update_of_ne different ..
    · intro winner
      rw [Winner, Processes.proceed_self] at winner
      rcases winner.2 with works | checks
      · obtain ⟨op, next, impossible⟩ := works
        cases impossible
      · exact absurd (Function.update_self ..) checks.2
  · apply exclusive.proceed runs
    · simp only [NamedMutex.found, Function.update_self]
      exact .created
    · intro other different
      exact Function.update_of_ne different ..
    · intro other different
      exact Function.update_of_ne different ..
    · intro _
      exact Or.inr fun other winner => absent ⟨other, exclusive.opened winner⟩

theorem Exclusive.calls (exclusive : Exclusive run processes) {call : MutexCall Op}
    {next : MutexAnswer Answer call → MutexProgram Op Answer Unit}
    {answer : MutexAnswer Answer call} {mutex : NamedMutex ι} (state : σ)
    (runs : processes.ended process = false)
    (pending : processes.programs process = .call call next)
    (outer : ∀ op, call ≠ .inner op) (taken : processes.mutex.Step process call answer mutex) :
    Exclusive run (processes.proceed process mutex state (next answer)) := by
  have stage := exclusive.stage process runs
  rw [pending] at stage
  have called := stage.calls
  generalize has : processes.mutex.opened process = opened at called
  cases called with
  | inner op inner => exact absurd rfl (outer op)
  | close => exact exclusive.closes state runs taken
  | create => exact exclusive.creates state runs has taken
  | lastError =>
      obtain ⟨rfl, rfl⟩ := taken
      exact exclusive.checks state runs pending has

theorem Exclusive.step (exclusive : Exclusive run processes)
    (step : Processes.Step world processes later) : Exclusive run later := by
  cases step with
  | calls runs pending outer taken => exact exclusive.calls _ runs pending outer taken
  | @works process op next answer state runs pending taken =>
      have stage := exclusive.stage process runs
      rw [pending] at stage
      have called := stage.calls
      generalize has : processes.mutex.opened process = opened at called
      cases called with
      | inner op inner =>
          apply exclusive.proceed runs
          · rw [has]
            exact .running _
          · intro other _
            rfl
          · intro other _
            rfl
          · intro _
            exact Or.inl ⟨runs, Or.inl ⟨op, _, pending⟩⟩
  | @ends process mutex runs may shuts =>
      have apart : ∀ other, (processes.finish process mutex).ended other = false →
          other ≠ process ∧ processes.ended other = false := by
        intro other alive
        by_cases same : other = process
        · subst same
          rw [Processes.finish_self] at alive
          cases alive
        · rw [processes.finish_other same] at alive
          exact ⟨same, alive⟩
      have opens : ∀ other, mutex.opened other =
          Function.update processes.mutex.opened process false other :=
        fun other => congrFun shuts.opened other
      have winners : ∀ other, Winner run (processes.finish process mutex) other →
          Winner run processes other := by
        rintro other ⟨alive, wins⟩
        refine ⟨(apart other alive).2, ?_⟩
        rw [Processes.finish_mutex, shuts.error] at wins
        exact wins
      refine ⟨fun other alive => ?_, fun other ended => ?_, fun first second left right => ?_⟩
      · obtain ⟨different, goes⟩ := apart other alive
        rw [Processes.finish_mutex, opens, Function.update_of_ne different]
        exact exclusive.stage other goes
      · rw [Processes.finish_mutex, opens]
        by_cases same : other = process
        · rw [same, Function.update_self]
        · rw [Function.update_of_ne same]
          rw [processes.finish_other same] at ended
          exact exclusive.closed other ended
      · exact exclusive.unique first second (winners first left) (winners second right)

theorem reach_exclusive {state : σ} (reach : Processes.Reach world (launches run state) processes) :
    Exclusive run processes := by
  induction reach with
  | refl => exact launches_exclusive
  | tail _ step ih => exact ih.step step

/-- The process has not started, has returned or was ended. -/
def Absent (run : ι → Program Op Answer Unit) (processes : Processes Op Answer σ Unit ι)
    (process : ι) : Prop :=
  processes.programs process = launch (run process) ∨ processes.programs process = .done () ∨
    processes.ended process = true

/-- However launches, ends and crashes of the app interleave, at most one process runs, and the
mutex of the instance only exists while some process is between its start and its end. -/
theorem one_instance {state : σ} (reach : Processes.Reach world (launches run state) processes) :
    (∀ first second, processes.ended first = false → processes.ended second = false →
      Working (processes.programs first) → Working (processes.programs second) →
        first = second) ∧
    ((∀ process, Absent run processes process) → ¬ processes.mutex.Present) := by
  have exclusive := reach_exclusive reach
  constructor
  · intro first second firstRuns secondRuns left right
    exact exclusive.unique first second ⟨firstRuns, Or.inl left⟩ ⟨secondRuns, Or.inl right⟩
  · rintro absent ⟨process, opened⟩
    cases ended : processes.ended process with
    | true =>
        rw [exclusive.closed process ended] at opened
        cases opened
    | false =>
        have stage := exclusive.stage process ended
        rw [opened] at stage
        rcases absent process with start | through | gone
        · rw [start, launch_eq] at stage
          cases stage.calls
        · rw [through] at stage
          generalize same : (Program.done () : MutexProgram Op Answer Unit) = program at stage
          cases stage with
          | created => cases same
          | running rest => cases rest <;> cases same
        · rw [ended] at gone
          cases gone

end Runs

def anyWorld : Processes.World Unit (fun _ => Unit) Unit Bool where
  step _ _ _ _ _ := True
  mayEnd _ _ := True

/-- Two launches of a program that makes a single call. -/
def twoLaunches : Processes Unit (fun _ => Unit) Unit Unit Bool :=
  launches (fun _ => .call () .done) ()

def firstWorks : Processes Unit (fun _ => Unit) Unit Unit Bool :=
  (twoLaunches.proceed true (twoLaunches.mutex.found true true) ()
    (.call .lastError (checkCreated (.call () .done)))).proceed true
      (twoLaunches.mutex.found true true) () (guarded (.call () .done))

theorem firstWorks_reach : Processes.Reach anyWorld twoLaunches firstWorks := by
  have absent : ¬ twoLaunches.mutex.Present := by
    rintro ⟨process, opened⟩
    cases opened
  have pending : twoLaunches.programs true =
      .call (.create true) (afterCreate (.call () .done)) := launch_eq _
  have founds : @NamedMutex.Step Unit (fun _ => Unit) Bool _ true twoLaunches.mutex
      (.create true) true (twoLaunches.mutex.found true true) := Or.inr ⟨rfl, Or.inr ⟨absent, rfl⟩⟩
  have creates : Processes.Step anyWorld twoLaunches _ := .calls rfl pending nofun founds
  let created := twoLaunches.proceed true (twoLaunches.mutex.found true true) ()
    (.call .lastError (checkCreated (.call () .done)))
  have reads : @NamedMutex.Step Unit (fun _ => Unit) Bool _ true created.mutex .lastError (0 : Nat)
      created.mutex := ⟨rfl, rfl⟩
  have asked : created.programs true = .call .lastError (checkCreated (.call () .done)) :=
    Processes.proceed_self _
  have checks : Processes.Step anyWorld created _ := .calls rfl asked nofun reads
  exact (Relation.ReflTransGen.single creates).tail checks

theorem firstWorks_alone :
    Working (firstWorks.programs true) ∧ ¬ Working (firstWorks.programs false) := by
  have works : Working (firstWorks.programs true) := by
    rw [firstWorks, Processes.proceed_self]
    exact ⟨(), _, guarded_call () _⟩
  refine ⟨works, fun other => ?_⟩
  have same := (one_instance firstWorks_reach).1 true false rfl rfl works other
  cases same

end LayoutAdblock.App
