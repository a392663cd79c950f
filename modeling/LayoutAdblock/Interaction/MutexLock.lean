import LayoutAdblock.Interaction.Locked
import LayoutAdblock.Interaction.NamedMutex

namespace LayoutAdblock.Interaction

/-! # A named mutex as a lock

A section that waits for the mutex before it starts and releases it in the end
is a critical section.  Between two levels the calls on the handle disappear.
-/

variable {Op : Type} {Answer : Op → Type} {Refusal σ α ι : Type}

section Programs

variable (failed busy : Refusal) (refused : Refusal → α) (body : Program Op Answer α)

def leaveMutex (value : α) : MutexProgram Op Answer α :=
  .call .release fun _ => .call .close fun _ => .done value

/-- What follows the wait: the section and then the way out where the mutex was acquired, or
a refusal because it is busy. -/
def afterWait (acquired : Bool) : MutexProgram Op Answer α :=
  if acquired then inside body >>= leaveMutex
  else .call .close fun _ => .done (refused busy)

/-- What follows the creation: the wait where there is a mutex, or a refusal because it
could not be opened. -/
def afterOpening (created : Bool) : MutexProgram Op Answer α :=
  if created then .call .wait (afterWait busy refused body) else .done (refused failed)

/-- Open the mutex, wait for it, and do the work while it is held. -/
def mutexSection : MutexProgram Op Answer α :=
  .call (.create false) (afterOpening failed busy refused body)

end Programs

variable {failed busy : Refusal} {refused : ι → Refusal → α} {body : ι → Program Op Answer α}
  {process : ι}

/-- Where a process stands on both levels, with the mutex and with the lock, whether it has
a handle of the mutex and whether it owns it. -/
inductive Mirrors (failed busy : Refusal) (refused : ι → Refusal → α)
    (body : ι → Program Op Answer α) (process : ι) :
    Bool → Bool → MutexProgram Op Answer α → Locked Op Answer Refusal α → Prop where
  | start : Mirrors failed busy refused body process false false
      (mutexSection failed busy (refused process) (body process))
      (critical (refused process) (body process))
  | opened : Mirrors failed busy refused body process true false
      (.call .wait (afterWait busy (refused process) (body process)))
      (critical (refused process) (body process))
  | holding (rest : Program Op Answer α) : Mirrors failed busy refused body process true true
      (inside rest >>= leaveMutex) (inLock rest >>= leaveLock)
  | leaving (value : α) : Mirrors failed busy refused body process true false
      (.call .close fun _ => .done value) (.done value)
  | through (value : α) : Mirrors failed busy refused body process false false
      (.done value) (.done value)

/-- The calls that a process can make, with what follows. -/
inductive MirrorCall (failed busy : Refusal) (refused : ι → Refusal → α)
    (body : ι → Program Op Answer α) (process : ι) : Bool → Bool → (call : MutexCall Op) →
    (MutexAnswer Answer call → MutexProgram Op Answer α) → Locked Op Answer Refusal α → Prop where
  | create : MirrorCall failed busy refused body process false false (.create false)
      (afterOpening failed busy (refused process) (body process))
      (critical (refused process) (body process))
  | wait : MirrorCall failed busy refused body process true false .wait
      (afterWait busy (refused process) (body process))
      (critical (refused process) (body process))
  | inner (op : Op) (next : Answer op → Program Op Answer α) :
      MirrorCall failed busy refused body process true true (.inner op)
        (fun answer => inside (next answer) >>= leaveMutex)
        (.call (.inner op) fun answer => inLock (next answer) >>= leaveLock)
  | release (value : α) : MirrorCall failed busy refused body process true true .release
      (fun _ => .call .close fun _ => .done value) (.call .release fun _ => .done value)
  | close (value : α) : MirrorCall failed busy refused body process true false .close
      (fun _ => .done value) (.done value)

theorem Mirrors.calls {opened owns : Bool} {call : MutexCall Op}
    {next : MutexAnswer Answer call → MutexProgram Op Answer α} {mirror : Locked Op Answer Refusal α}
    (mirrors : Mirrors failed busy refused body process opened owns (.call call next) mirror) :
    MirrorCall failed busy refused body process opened owns call next mirror := by
  generalize same : Program.call call next = program at mirrors
  cases mirrors with
  | start =>
      cases same
      exact .create
  | opened =>
      cases same
      exact .wait
  | leaving value =>
      cases same
      exact .close value
  | through value => cases same
  | holding rest =>
      cases rest with
      | done value =>
          cases same
          exact .release value
      | call op inner =>
          cases same
          exact .inner op inner

variable [DecidableEq ι]

def sectionWorld (env : Environment Op Answer σ) (ι : Type) : Processes.World Op Answer σ ι where
  step _ := env.step
  mayEnd mutex process := mutex.owner ≠ some process

/-- Processes that each run a section of their own under one named mutex. -/
def mutexSections (failed busy : Refusal) (refused : ι → Refusal → α)
    (body : ι → Program Op Answer α) (state : σ) : Processes Op Answer σ α ι where
  state := state
  programs process := mutexSection failed busy (refused process) (body process)

/-- Named mutex and lock are at the same point. Every process that runs has the place in its
program that its party has, who owns the mutex holds the lock, and a process that has ended
neither owns it nor keeps it open. -/
structure Implements (failed busy : Refusal) (refused : ι → Refusal → α)
    (body : ι → Program Op Answer α) (processes : Processes Op Answer σ α ι)
    (crowd : Crowd Op Answer Refusal σ α ι) : Prop where
  state : crowd.state = processes.state
  holder : crowd.holder = processes.mutex.owner
  stands : ∀ process, processes.ended process = false →
    Mirrors failed busy refused body process (processes.mutex.opened process)
      (decide (processes.mutex.owner = some process)) (processes.programs process)
      (crowd.parties process)
  gone : ∀ process, processes.ended process = true →
    processes.mutex.opened process = false ∧ processes.mutex.owner ≠ some process

section Steps

variable {env : Environment Op Answer σ} {processes later : Processes Op Answer σ α ι}
  {start crowd : Crowd Op Answer Refusal σ α ι}

/-- Whoever has the mutex has a handle. -/
theorem Implements.opened (implements : Implements failed busy refused body processes crowd)
    {owner : ι} (owns : processes.mutex.owner = some owner) :
    processes.mutex.opened owner = true := by
  cases ended : processes.ended owner with
  | true => exact absurd owns (implements.gone owner ended).2
  | false =>
      have stands := implements.stands owner ended
      rw [decide_eq_true owns] at stands
      cases opened : processes.mutex.opened owner with
      | true => rfl
      | false =>
          rw [opened] at stands
          cases stands

/-- A process that closes its handle and does not own the mutex leaves the owner alone. -/
theorem Implements.shuts (implements : Implements failed busy refused body processes crowd)
    {mutex : NamedMutex ι} (apart : processes.mutex.owner ≠ some process)
    (shuts : processes.mutex.Shuts process mutex) : mutex.owner = processes.mutex.owner := by
  by_cases present : mutex.Present
  · exact shuts.kept present
  · rw [shuts.lost present]
    cases owner : processes.mutex.owner with
    | none => rfl
    | some other =>
        have different : other ≠ process := fun same => apart (same ▸ owner)
        have opened := implements.opened owner
        refine absurd ⟨other, ?_⟩ present
        rw [shuts.opened, Function.update_of_ne different]
        exact opened

/-- One process goes on; the others find what they found. -/
theorem Implements.proceed (implements : Implements failed busy refused body processes crowd)
    {mutex : NamedMutex ι} {state : σ} {rest : MutexProgram Op Answer α}
    {mirror : Locked Op Answer Refusal α} {after : Crowd Op Answer Refusal σ α ι}
    (runs : processes.ended process = false)
    (opened : ∀ other, other ≠ process → mutex.opened other = processes.mutex.opened other)
    (owns : ∀ other, other ≠ process →
      (mutex.owner = some other ↔ processes.mutex.owner = some other))
    (stands : Mirrors failed busy refused body process (mutex.opened process)
      (decide (mutex.owner = some process)) rest mirror)
    (isState : after.state = state) (isHolder : after.holder = mutex.owner)
    (isParties : after.parties = Function.update crowd.parties process mirror) :
    Implements failed busy refused body (processes.proceed process mutex state rest) after := by
  refine ⟨isState, isHolder, fun other alive => ?_, fun other ended => ?_⟩
  · rw [isParties]
    by_cases isOne : other = process
    · subst isOne
      rw [Processes.proceed_self, Function.update_self]
      exact stands
    · rw [processes.proceed_other isOne, Processes.proceed_mutex, opened other isOne,
        Function.update_of_ne isOne]
      simp only [owns other isOne]
      exact implements.stands other alive
  · have different : other ≠ process := by
      rintro rfl
      rw [Processes.proceed_ended, runs] at ended
      cases ended
    rw [Processes.proceed_mutex, opened other different, Ne, owns other different]
    exact implements.gone other ended

/-- The crowd takes no notice of a call. -/
theorem Implements.stutter (implements : Implements failed busy refused body processes crowd)
    {mutex : NamedMutex ι} {rest : MutexProgram Op Answer α}
    (runs : processes.ended process = false) (same : mutex.owner = processes.mutex.owner)
    (opened : ∀ other, other ≠ process → mutex.opened other = processes.mutex.opened other)
    (stands : Mirrors failed busy refused body process (mutex.opened process)
      (decide (mutex.owner = some process)) rest (crowd.parties process)) :
    Implements failed busy refused body (processes.proceed process mutex processes.state rest)
      crowd := by
  apply implements.proceed runs opened _ stands implements.state
  · rw [same]
    exact implements.holder
  · rw [Function.update_eq_self]
  · intro other _
    rw [same]

/-- A process that is refused goes on without the mutex, and the crowd refuses it too. -/
theorem Implements.refuses (implements : Implements failed busy refused body processes crowd)
    (reach : Crowd.Reach env start crowd) {rest : MutexProgram Op Answer α} {refusal : Refusal}
    (runs : processes.ended process = false)
    (mirror : crowd.parties process = critical (refused process) (body process))
    (stands : Mirrors failed busy refused body process (processes.mutex.opened process)
      (decide (processes.mutex.owner = some process)) rest (.done (refused process refusal))) :
    ∃ after, Crowd.Reach env start after ∧ Implements failed busy refused body
      (processes.proceed process processes.mutex processes.state rest) after := by
  have refusing : Crowd.Step env crowd
      (crowd.proceed process (.done (refused process refusal))) := .refuse mirror
  refine ⟨_, reach.step refusing,
    implements.proceed runs ?_ ?_ stands implements.state implements.holder rfl⟩
  · intro other _
    rfl
  · intro other _
    rfl

theorem Implements.closes (implements : Implements failed busy refused body processes crowd)
    {mutex : NamedMutex ι} {value : α} (runs : processes.ended process = false)
    (apart : processes.mutex.owner ≠ some process)
    (mirror : crowd.parties process = .done value) (shuts : processes.mutex.Shuts process mutex) :
    Implements failed busy refused body
      (processes.proceed process mutex processes.state (.done value)) crowd := by
  have same := implements.shuts apart shuts
  have opens : ∀ other, mutex.opened other =
      Function.update processes.mutex.opened process false other :=
    fun other => congrFun shuts.opened other
  apply implements.stutter runs same
  · intro other different
    rw [opens, Function.update_of_ne different]
  · rw [opens, Function.update_self, same, decide_eq_false apart, mirror]
    exact .through value

theorem Implements.releases (implements : Implements failed busy refused body processes crowd)
    (reach : Crowd.Reach env start crowd) {value : α} (runs : processes.ended process = false)
    (has : processes.mutex.opened process = true) (holds : processes.mutex.owner = some process)
    (mirror : crowd.parties process = .call .release fun _ => .done value) :
    ∃ after, Crowd.Reach env start after ∧ Implements failed busy refused body
      (processes.proceed process (processes.mutex.abandon process) processes.state
        (.call .close fun _ => .done value)) after := by
  have free : (processes.mutex.abandon process).owner = none := by
    simp [NamedMutex.abandon, holds]
  have left : Mirrors failed busy refused body process
      ((processes.mutex.abandon process).opened process)
      (decide ((processes.mutex.abandon process).owner = some process))
      (.call .close fun _ => .done value) (.done value) := by
    have still : (processes.mutex.abandon process).opened process = true := has
    rw [still, free]
    exact .leaving value
  refine ⟨_, reach.step (.release mirror), implements.proceed runs ?_ ?_ left ?_ free.symm rfl⟩
  · intro other _
    rfl
  · intro other different
    simp [free, holds, different.symm]
  · exact implements.state

theorem Implements.waits (implements : Implements failed busy refused body processes crowd)
    (reach : Crowd.Reach env start crowd) {acquired : Bool} {mutex : NamedMutex ι}
    (runs : processes.ended process = false) (has : processes.mutex.opened process = true)
    (apart : processes.mutex.owner ≠ some process)
    (mirror : crowd.parties process = critical (refused process) (body process))
    (taken : @NamedMutex.Step Op Answer ι _ process processes.mutex .wait acquired mutex) :
    ∃ after, Crowd.Reach env start after ∧ Implements failed busy refused body
      (processes.proceed process mutex processes.state
        (afterWait busy (refused process) (body process) acquired)) after := by
  rcases taken with ⟨rfl, rfl⟩ | ⟨rfl, owner, rfl⟩
  · apply implements.refuses reach runs mirror
    rw [has, decide_eq_false apart]
    exact .leaving (refused process busy)
  · have free : processes.mutex.owner = none := owner.resolve_right apart
    have enters : Mirrors failed busy refused body process
        (processes.mutex.opened process) (decide (some process = some process))
        (inside (body process) >>= leaveMutex) (inLock (body process) >>= leaveLock) := by
      rw [has, decide_eq_true rfl]
      exact .holding _
    refine ⟨_, reach.step (.acquire (implements.holder.trans free) mirror),
      implements.proceed runs ?_ ?_ enters implements.state rfl rfl⟩
    · intro other _
      rfl
    · intro other different
      simp [free, different.symm]

theorem Implements.creates (implements : Implements failed busy refused body processes crowd)
    (reach : Crowd.Reach env start crowd) {created : Bool} {mutex : NamedMutex ι}
    (runs : processes.ended process = false) (has : processes.mutex.opened process = false)
    (apart : processes.mutex.owner ≠ some process)
    (mirror : crowd.parties process = critical (refused process) (body process))
    (taken : @NamedMutex.Step Op Answer ι _ process processes.mutex (.create false) created
      mutex) :
    ∃ after, Crowd.Reach env start after ∧ Implements failed busy refused body
      (processes.proceed process mutex processes.state
        (afterOpening failed busy (refused process) (body process) created)) after := by
  rcases taken with ⟨rfl, rfl⟩ | ⟨rfl, ⟨_, rfl⟩ | ⟨absent, rfl⟩⟩
  · apply implements.refuses reach runs mirror
    rw [has, decide_eq_false apart]
    exact .through (refused process failed)
  · refine ⟨crowd, reach, implements.stutter runs rfl ?_ ?_⟩
    · intro other different
      exact Function.update_of_ne different ..
    · have joined : (processes.mutex.join process).opened process = true :=
        Function.update_self ..
      have kept : (processes.mutex.join process).owner = processes.mutex.owner := rfl
      rw [joined, kept, decide_eq_false apart, mirror]
      exact .opened
  · have unowned : processes.mutex.owner = none := by
      cases owner : processes.mutex.owner with
      | none => rfl
      | some other => exact absurd ⟨other, implements.opened owner⟩ absent
    refine ⟨crowd, reach, implements.stutter runs unowned.symm ?_ ?_⟩
    · intro other different
      exact Function.update_of_ne different ..
    · have joined : (processes.mutex.found process false).opened process = true :=
        Function.update_self ..
      have fresh : (processes.mutex.found process false).owner = none := rfl
      rw [joined, fresh, mirror]
      exact .opened

theorem Implements.calls (implements : Implements failed busy refused body processes crowd)
    (reach : Crowd.Reach env start crowd) {call : MutexCall Op}
    {next : MutexAnswer Answer call → MutexProgram Op Answer α}
    {answer : MutexAnswer Answer call} {mutex : NamedMutex ι}
    (runs : processes.ended process = false)
    (pending : processes.programs process = .call call next)
    (outer : ∀ op, call ≠ .inner op) (taken : processes.mutex.Step process call answer mutex) :
    ∃ after, Crowd.Reach env start after ∧ Implements failed busy refused body
      (processes.proceed process mutex processes.state (next answer)) after := by
  have stands := implements.stands process runs
  rw [pending] at stands
  have called := stands.calls
  generalize has : processes.mutex.opened process = opened at called
  generalize owns : decide (processes.mutex.owner = some process) = owning at called
  generalize mirror : crowd.parties process = program at called
  cases called with
  | inner op inner => exact absurd rfl (outer op)
  | close value =>
      exact ⟨crowd, reach, implements.closes runs (of_decide_eq_false owns) mirror taken⟩
  | release value =>
      obtain rfl := taken
      exact implements.releases reach runs has (of_decide_eq_true owns) mirror
  | wait => exact implements.waits reach runs has (of_decide_eq_false owns) mirror taken
  | create => exact implements.creates reach runs has (of_decide_eq_false owns) mirror taken

theorem Implements.step (implements : Implements failed busy refused body processes crowd)
    (reach : Crowd.Reach env start crowd)
    (step : Processes.Step (sectionWorld env ι) processes later) :
    ∃ after, Crowd.Reach env start after ∧
      Implements failed busy refused body later after := by
  cases step with
  | calls runs pending outer taken => exact implements.calls reach runs pending outer taken
  | @works process op next answer state runs pending taken =>
      have stands := implements.stands process runs
      rw [pending] at stands
      have called := stands.calls
      generalize has : processes.mutex.opened process = opened at called
      generalize owns : decide (processes.mutex.owner = some process) = owning at called
      generalize mirror : crowd.parties process = program at called
      cases called with
      | inner op inner =>
          have goes : Mirrors failed busy refused body process
              (processes.mutex.opened process)
              (decide (processes.mutex.owner = some process))
              (inside (inner answer) >>= leaveMutex) (inLock (inner answer) >>= leaveLock) := by
            rw [has, owns]
            exact .holding _
          rw [sectionWorld, ← implements.state] at taken
          refine ⟨_, reach.step (.inner mirror taken),
            implements.proceed runs ?_ ?_ goes rfl implements.holder rfl⟩
          · intro other _
            rfl
          · intro other _
            rfl
  | @ends process mutex runs apart shuts =>
      have unowned : processes.mutex.abandon process = processes.mutex := by
        simp only [NamedMutex.abandon, if_neg apart]
      rw [unowned] at shuts
      have same := implements.shuts apart shuts
      have opens : ∀ other, mutex.opened other =
          Function.update processes.mutex.opened process false other :=
        fun other => congrFun shuts.opened other
      refine ⟨crowd, reach, implements.state, ?_, fun other alive => ?_, fun other ended => ?_⟩
      · rw [Processes.finish_mutex, same]
        exact implements.holder
      · have different : other ≠ process := by
          rintro rfl
          rw [Processes.finish_self] at alive
          cases alive
        rw [processes.finish_other different] at alive
        rw [Processes.finish_mutex, opens, Function.update_of_ne different, same]
        exact implements.stands other alive
      · rw [Processes.finish_mutex, opens, same]
        by_cases isOne : other = process
        · subst isOne
          exact ⟨Function.update_self .., apart⟩
        · rw [processes.finish_other isOne] at ended
          rw [Function.update_of_ne isOne]
          exact implements.gone other ended

/-- Every run of the sections is one of the crowd. -/
theorem mutexSections_reach {state : σ}
    (reach : Processes.Reach (sectionWorld env ι)
      (mutexSections failed busy refused body state) processes) :
    ∃ crowd, Crowd.Reach env (Crowd.opening state refused body) crowd ∧
      Implements failed busy refused body processes crowd := by
  induction reach with
  | refl =>
      exact ⟨_, .start, rfl, rfl, fun process _ => .start, fun process ended =>
        Bool.noConfusion ended⟩
  | tail _ step ih =>
      obtain ⟨crowd, reach, implements⟩ := ih
      exact implements.step reach step

omit [DecidableEq ι] in
theorem Mirrors.done {opened owns : Bool} {value : α} {mirror : Locked Op Answer Refusal α}
    (mirrors : Mirrors failed busy refused body process opened owns (.done value) mirror) :
    mirror = .done value := by
  generalize same : (Program.done value : MutexProgram Op Answer α) = program at mirrors
  cases mirrors with
  | through other =>
      cases same
      rfl
  | holding rest => cases rest <;> cases same
  | _ => cases same

end Steps

end LayoutAdblock.Interaction
