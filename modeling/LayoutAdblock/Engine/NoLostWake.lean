import LayoutAdblock.Engine.WakeLock

namespace LayoutAdblock.Engine

open Interaction
open Program (Before After anyAnswer)

/-! # No wake-up is lost

A thread that has changed a flag owes the worker a signal on both channels, and
a worker that has used up a signal looks at the flags before it sleeps again.
-/

namespace ControlCall

/-- The call changes a flag the worker watches. -/
def Stores : ControlCall → Prop
  | .store _ _ => True
  | _ => False

def Signals : Channel → ControlCall → Prop
  | .park, .unpark => True
  | .message, .post _ => True
  | _, _ => False

/-- The answer that a registered worker leads to. -/
def Reaches : Channel → (call : ControlCall) → call.Answer → Prop
  | .park, .getWake, registered => registered = true
  | .message, .loadThreadId, id => id ≠ 0
  | _, _, _ => True

/-- From this call on the worker can be reached on the channel. -/
def Opens : Channel → ControlCall → Prop
  | .park, .setWake registered => registered = true
  | .message, call => call.Publishes
  | _, _ => False

/-- From this call on the worker cannot be reached on the channel. -/
def Closes : Channel → ControlCall → Prop
  | .park, .setWake registered => registered = false
  | .message, call => call.Clears
  | _, _ => False

/-- The call is a sleep that a signal on the channel ends. -/
def SleepsOn : Channel → ControlCall → Prop
  | .park, .park _ | .message, .msgWait _ => True
  | _, _ => False

def LooksAny (call : ControlCall) : Prop := ∃ what, call.Looks what

end ControlCall

open ControlCall

variable {ι : Type} {settings : Config.AppSettings} {laps threadId : Nat} {what : Watched}
  {channel : Channel} {call : ControlCall} {thread : Thread ι} {before after : Control ι}
  {answer : call.Answer}

/-- A signal follows before the next change, if the worker is registered. -/
def Owes (channel : Channel) (program : ControlM Unit) : Prop :=
  program.Before (Reaches channel) (Signals channel) Stores fun _ => False

/-- A worker that cannot be found looks at everything before it sleeps, and not
before it can be found. -/
structure Hidden (channel : Channel) (program : ControlM Unit) : Prop where
  looks : ∀ what, ThreadLooks what program
  opens : program.Before anyAnswer (ControlCall.Opens channel) LooksAny fun _ => True

/-- After a sleep the worker looks at everything, and once it has unregistered
it neither sleeps nor looks. -/
structure Attentive (program : ControlM Unit) : Prop where
  own : program.Only fun call => ¬ call.Stores
  resumes : ∀ what, program.After (fun call _ => call.Resumes) (ThreadLooks what)
  closes : ∀ channel, program.After (fun call _ => call.Closes channel) fun left =>
    left.Only fun call => ¬ call.Sleeps ∧ ¬ call.LooksAny

/-- Calls that leave the worker's signals and its registration to the worker. -/
def Polite (call : ControlCall) : Prop :=
  ¬ call.Resumes ∧ ∀ channel, ¬ ControlCall.Opens channel call ∧ ¬ call.Closes channel

/-- Every change that the program makes to a watched flag is followed, before the next one,
by a signal on both channels, if the worker is registered. -/
structure Announces (program : ControlM Unit) : Prop where
  polite : program.Only Polite
  owes : ∀ channel, program.After (fun call _ => call.Stores) (Owes channel)

theorem ThreadLooks.of_only {program : ControlM Unit}
    (only : program.Only fun call => ¬ call.Sleeps) : ThreadLooks what program :=
  Before.of_only only

theorem Hidden.of_only {program : ControlM Unit}
    (only : program.Only fun call => ¬ call.Sleeps ∧ ¬ call.LooksAny) :
    Hidden channel program where
  looks _ := ThreadLooks.of_only (only.mono fun _ apart => apart.1)
  opens := Before.of_only (only.mono fun _ apart => apart.2)

theorem exitGuard_quiet : exitGuard.Only fun call => ¬ call.Sleeps ∧ ¬ call.LooksAny := by
  simp [exitGuard, unregisterWorker, control, Program.ask, Program.Only, Sleeps, LooksAny, Looks]

theorem ordinary_closes (ordinary : call.Ordinary) : ¬ call.Closes channel := by
  cases call with
  | work | hookInstalled | park | msgWait | drainMessages => cases channel <;> exact id
  | _ => exact ordinary.elim

theorem registeredThread_looks : ThreadLooks what (registeredThread settings laps) := by
  apply (translate_looks (runWorker_looks laps)).bind
  intro stopped _
  exact Before.of_only (exitGuard_quiet.mono fun _ apart => apart.1)

theorem ordinary_own (ordinary : call.Ordinary) : ¬ call.Stores := by
  cases call with
  | store changed value => exact ordinary.elim
  | _ => exact id

theorem exitGuard_attentive : Attentive exitGuard where
  own := by
    simp [exitGuard, unregisterWorker, control, Program.ask, Program.Only, Stores]
  resumes what := After.of_only (by
    simp [exitGuard, unregisterWorker, control, Program.ask, Program.Only, Resumes, Sleeps])
  closes channel := by
    have quiet := exitGuard_quiet
    refine fun _ => ⟨fun _ => quiet.2 (), fun _ => ⟨fun _ => (quiet.2 ()).2 (), ?_⟩⟩
    refine fun _ => ⟨fun _ => ((quiet.2 ()).2 ()).2 (), fun _ => ⟨fun _ => ?_, trivial⟩⟩
    trivial

theorem registeredThread_attentive : Attentive (registeredThread settings laps) where
  own := ((run_ordinary _).mono fun _ => ordinary_own).bind fun _ => exitGuard_attentive.own
  resumes what := by
    apply (translate_resumes (runWorker_resumes laps)).bind
    · intro left looks
      apply looks.bind
      intro stopped _
      exact Before.of_only (exitGuard_quiet.mono fun _ apart => apart.1)
    · intro stopped
      exact exitGuard_attentive.resumes what
  closes channel := by
    apply After.of_only_bind
    · exact (run_ordinary _).mono fun call ordinary _ => ordinary_closes ordinary
    · intro stopped
      exact exitGuard_attentive.closes channel

theorem registers_only {kind : ControlCall → Prop} (queue : kind .createQueue)
    (store : kind (.storeThreadId threadId)) (lock : kind .lockWake) (set : kind (.setWake true))
    (unlock : kind .unlockWake) : (registerWorker threadId).Only kind :=
  ⟨queue, fun _ => ⟨store, fun _ => ⟨lock, fun _ => ⟨set, fun _ => ⟨unlock, fun _ => trivial⟩⟩⟩⟩⟩

theorem workerThread_attentive (native : threadId ≠ 0) :
    Attentive (workerThread settings laps threadId) where
  own := (registers_only id id id id id).bind fun _ => registeredThread_attentive.own
  resumes what := by
    apply After.of_only_bind (registers_only _ _ _ _ _)
    · intro _
      exact registeredThread_attentive.resumes what
    all_goals exact fun _ resumes => resumes
  closes channel := by
    apply After.of_only_bind (registers_only _ _ _ _ _)
    · intro _
      exact registeredThread_attentive.closes channel
    all_goals cases channel
    all_goals first
      | exact fun _ closes => closes
      | exact fun _ closes => native closes
      | exact fun _ closes => Bool.noConfusion closes

theorem workerThread_hidden (native : threadId ≠ 0) :
    Hidden channel (workerThread settings laps threadId) where
  looks what := by
    apply Before.after_only (registers_only id id id id id)
    intro _
    exact registeredThread_looks
  opens := by
    have unlooked : ∀ call : ControlCall, (∀ work, call ≠ .work work) → ¬ call.LooksAny := by
      rintro call differs ⟨what, looks⟩
      cases call with
      | work work => exact differs work rfl
      | _ => exact looks
    refine Or.inr ⟨unlooked _ nofun, fun _ _ => ?_⟩
    cases channel with
    | message => exact Or.inl native
    | park =>
        refine Or.inr ⟨unlooked _ nofun, fun _ _ => Or.inr ⟨unlooked _ nofun, fun _ _ => ?_⟩⟩
        exact Or.inl rfl

theorem notifyControl_owes (rest : ControlM Unit) :
    Owes channel (notifyControl >>= fun _ => rest) := by
  rw [notifyControl_then]
  refine Or.inr ⟨id, fun _ _ => Or.inr ⟨id, fun registered reaches => ?_⟩⟩
  cases channel with
  | park =>
      obtain rfl : registered = true := reaches
      exact Or.inl trivial
  | message =>
      have posts : Owes .message (do
          let id ← control .loadThreadId
          postTo id
          control .unlockWake
          rest) := by
        refine Or.inr ⟨id, fun found reaches => ?_⟩
        have native : found ≠ 0 := reaches
        simp only [Program.bind, postTo, if_pos native]
        exact Or.inl trivial
      cases registered with
      | true => exact Or.inr ⟨id, fun _ _ => posts⟩
      | false => exact posts

theorem announce_announces (changes : List (Watched × Bool)) : Announces (announce changes) := by
  have polite : ∀ call : ControlCall, ¬ call.Resumes → (∀ registered, call ≠ .setWake registered) →
      (∀ id, call ≠ .storeThreadId id) → Polite call := by
    intro call awake unset unstored
    refine ⟨awake, fun channel => ?_⟩
    cases call with
    | setWake registered => exact absurd rfl (unset registered)
    | storeThreadId id => exact absurd rfl (unstored id)
    | _ => cases channel <;> exact ⟨id, id⟩
  have notifies : notifyControl.Only fun call => ¬ call.Stores :=
    notifyControl_only id id id id (fun _ => id) id
  have politely : notifyControl.Only Polite :=
    notifyControl_only (polite _ id nofun nofun) (polite _ id nofun nofun)
      (polite _ id nofun nofun) (polite _ id nofun nofun) (fun _ => polite _ id nofun nofun)
      (polite _ id nofun nofun)
  induction changes with
  | nil => exact ⟨trivial, fun _ => trivial⟩
  | cons change rest ih =>
      refine ⟨⟨polite _ id nofun nofun, fun _ => politely.bind fun _ => ih.polite⟩, ?_⟩
      intro channel answer
      refine ⟨fun _ => notifyControl_owes _, ?_⟩
      apply After.of_only_bind (notifies.mono fun _ apart _ => apart)
      intro _
      exact ih.owes channel

theorem stale_look {seen : Watched} {left : Bool} (stale : (before.look seen left).Stale what) :
    what ≠ seen ∧ before.Stale what := by
  simp only [Control.Stale, Control.look, Function.update_apply] at stale
  split_ifs at stale with same
  · exact absurd rfl stale
  · exact ⟨same, stale⟩

theorem eq_of_looks {call : WorkerCall} (looks : call.Looks what) :
    call = .loop (.load .stopping) ∧ what = .stopping ∨
      call = .loop (.load .enabled) ∧ what = .enabled ∨
        call = .loop (.load .aggressive) ∧ what = .aggressive ∨
          call = .loop .takeReset ∧ what = .resetRestore := by
  cases call with
  | loop call =>
      cases call with
      | load flag => cases flag <;> cases what <;> simp_all [WorkerCall.Looks, LoopCall.Looks]
      | takeReset => cases what <;> simp_all [WorkerCall.Looks, LoopCall.Looks]
      | _ => cases what <;> exact looks.elim
  | _ => exact looks.elim

/-- What the worker looks at is not stale. -/
theorem workStep_stale {call : WorkerCall} {answer : call.Answer}
    (step : workStep before call answer after) (stale : after.Stale what) :
    before.Stale what ∧ ¬ call.Looks what := by
  constructor
  · unfold workStep at step
    split at step
    · obtain ⟨_, rfl⟩ := step
      exact (stale_look stale).2
    · obtain ⟨_, rfl⟩ := step
      exact (stale_look stale).2
    · obtain ⟨_, rfl⟩ := step
      exact (stale_look stale).2
    · obtain ⟨_, rfl⟩ := step
      exact (stale_look stale).2
    · obtain rfl := step
      exact stale
    · obtain rfl := step
      exact stale
    · obtain ⟨_, rfl⟩ := step
      exact stale
    · obtain rfl := step
      exact stale
  · intro looks
    obtain ⟨rfl, rfl⟩ | ⟨rfl, rfl⟩ | ⟨rfl, rfl⟩ | ⟨rfl, rfl⟩ := eq_of_looks looks
    · obtain ⟨_, rfl⟩ := step
      exact (stale_look stale).1 rfl
    · obtain ⟨_, rfl⟩ := step
      exact (stale_look stale).1 rfl
    · obtain ⟨_, rfl⟩ := step
      exact (stale_look stale).1 rfl
    · obtain ⟨_, rfl⟩ := step
      exact (stale_look stale).1 rfl

/-- A change of a flag is the only way it becomes stale. -/
theorem step_stale (step : controlStep thread before call answer after)
    (stale : after.Stale what) :
    (before.Stale what ∧ ¬ call.Looks what) ∨ call.Stores := by
  cases call with
  | work call => exact Or.inl (workStep_stale step stale)
  | store changed value => exact Or.inr trivial
  | lockWake | hookInstalled | loadThreadId | getWake =>
      obtain ⟨_, rfl⟩ := step
      exact Or.inl ⟨stale, id⟩
  | post id =>
      cases step with
      | inl arrives =>
          obtain ⟨_, rfl⟩ := arrives
          exact Or.inl ⟨stale, fun looks => looks⟩
      | inr full =>
          obtain ⟨_, rfl⟩ := full
          exact Or.inl ⟨stale, fun looks => looks⟩
  | _ =>
      obtain rfl := step
      exact Or.inl ⟨stale, id⟩

theorem step_signalled (step : controlStep thread before call answer after)
    (awake : ¬ call.Resumes) (signalled : before.signalled channel = true) :
    after.signalled channel = true := by
  cases call with
  | work call =>
      have same := workStep_signals step
      cases channel with
      | park => exact same.token.trans signalled
      | message => simpa only [Control.signalled, same.queue] using signalled
  | park | msgWait | drainMessages => exact absurd trivial awake
  | unpark =>
      obtain rfl := step
      cases channel with
      | park => rfl
      | message => exact signalled
  | post id =>
      cases step with
      | inr full =>
          obtain ⟨_, rfl⟩ := full
          exact signalled
      | inl arrives =>
          obtain ⟨_, rfl⟩ := arrives
          cases channel with
          | park => exact signalled
          | message => simp [Control.signalled]
  | lockWake | hookInstalled | loadThreadId | getWake =>
      obtain ⟨_, rfl⟩ := step
      exact signalled
  | _ =>
      obtain rfl := step
      exact signalled

theorem step_signals (step : controlStep thread before call answer after)
    (signals : call.Signals channel) (queue : channel = .message → before.queueExists = true) :
    after.signalled channel = true := by
  cases channel with
  | park =>
      cases call with
      | unpark =>
          obtain rfl := step
          rfl
      | _ => exact signals.elim
  | message =>
      cases call with
      | post id =>
          cases step with
          | inl arrives =>
              obtain ⟨_, rfl⟩ := arrives
              simp [Control.signalled]
          | inr full =>
              obtain ⟨filled, rfl⟩ := full
              exact decide_eq_true (filled (queue rfl))
      | _ => exact signals.elim

/-- A closed channel has just been closed, or it was closed and has not been opened. -/
theorem step_isOpen (step : controlStep thread before call answer after)
    (closed : after.isOpen channel = false) :
    call.Closes channel ∨ before.isOpen channel = false ∧ ¬ ControlCall.Opens channel call := by
  cases call with
  | work call =>
      have same := workStep_signals step
      cases channel with
      | park => exact Or.inr ⟨same.wake.symm.trans closed, id⟩
      | message =>
          rw [Control.isOpen, same.threadId] at closed
          exact Or.inr ⟨closed, id⟩
  | setWake registered =>
      obtain rfl := step
      cases channel with
      | park => exact Or.inl closed
      | message => exact Or.inr ⟨closed, id⟩
  | storeThreadId id =>
      obtain rfl := step
      cases channel with
      | park => exact Or.inr ⟨closed, fun opens => opens⟩
      | message =>
          have zero : id = 0 := by simpa [Control.isOpen] using closed
          exact Or.inl zero
  | post id =>
      have apart : ¬ ControlCall.Opens channel (.post id) := by
        cases channel <;> exact fun opens => opens
      cases step with
      | inl arrives =>
          obtain ⟨_, rfl⟩ := arrives
          exact Or.inr ⟨by cases channel <;> exact closed, apart⟩
      | inr full =>
          obtain ⟨_, rfl⟩ := full
          exact Or.inr ⟨closed, apart⟩
  | lockWake | hookInstalled | loadThreadId | getWake =>
      obtain ⟨_, rfl⟩ := step
      exact Or.inr ⟨by cases channel <;> exact closed, by cases channel <;> exact id⟩
  | _ =>
      obtain rfl := step
      exact Or.inr ⟨by cases channel <;> exact closed, by cases channel <;> exact id⟩

/-- A channel that leads to nobody is closed. -/
theorem step_reaches (step : controlStep thread before call answer after)
    (unusual : ¬ call.Reaches channel answer) : after.isOpen channel = false := by
  cases channel with
  | park =>
      cases call with
      | getWake =>
          obtain ⟨registered, rfl⟩ := step
          exact registered.symm.trans ((Bool.not_eq_true answer).mp unusual)
      | _ => exact absurd trivial unusual
  | message =>
      cases call with
      | loadThreadId =>
          obtain ⟨found, rfl⟩ := step
          have zero : answer = 0 := Classical.not_not.mp unusual
          simp only [Control.isOpen, ← found, zero, ne_eq, not_true, decide_false]
      | _ => exact absurd trivial unusual

section Runs

variable [DecidableEq ι] {system later : System ι}

/-- A flag of which the worker does not know is told to it, will be, or is looked at before the
worker sleeps. -/
structure Informed (system : System ι) : Prop where
  attentive : Attentive (system.programs none)
  hidden : ∀ channel, system.state.isOpen channel = false →
    Hidden channel (system.programs none)
  announces : ∀ notifier, Announces (system.programs (some notifier))
  told : ∀ what channel, system.state.Stale what → system.state.signalled channel = true ∨
    (∃ notifier, Owes channel (system.programs (some notifier))) ∨
      ThreadLooks what (system.programs none)

omit [DecidableEq ι] in
theorem opening_informed {current : Watched → Bool} {changes : ι → List (Watched × Bool)}
    (native : threadId ≠ 0) :
    Informed (System.opening settings laps threadId current changes) := by
  have hidden : ∀ channel, Hidden channel (workerThread settings laps threadId) :=
    fun _ => workerThread_hidden native
  refine ⟨workerThread_attentive native, fun channel _ => hidden channel, ?_, ?_⟩
  · intro notifier
    exact announce_announces (changes notifier)
  · intro what channel _
    exact Or.inr (Or.inr ((hidden channel).looks what))

theorem Attentive.next {next : call.Answer → ControlM Unit}
    (attentive : Attentive (.call call next)) (answer : call.Answer) : Attentive (next answer) where
  own := attentive.own.2 answer
  resumes what := (attentive.resumes what answer).2
  closes channel := (attentive.closes channel answer).2

/-- The worker goes on unseen, or has just been closed off. -/
theorem Hidden.next {next : call.Answer → ControlM Unit} (hidden : Hidden channel (.call call next))
    (unopened : ¬ ControlCall.Opens channel call) (answer : call.Answer) :
    Hidden channel (next answer) := by
  obtain ⟨unlooked, opens⟩ := hidden.opens.resolve_left unopened
  refine ⟨fun what => ?_, opens answer trivial⟩
  cases hidden.looks what with
  | inl looks => exact absurd ⟨what, looks⟩ unlooked
  | inr rest => exact rest.2 answer trivial

theorem Informed.worker_calls (informed : Informed system) {next : call.Answer → ControlM Unit}
    (pending : system.programs none = .call call next)
    (step : controlStep none system.state call answer after) :
    Informed (system.proceed none after (next answer)) := by
  have attentive := informed.attentive
  rw [pending] at attentive
  have notifier : ∀ other : ι, (system.proceed none after (next answer)).programs (some other) =
      system.programs (some other) := fun other => System.proceed_other _ (by simp)
  refine ⟨?_, fun channel closed => ?_, fun other => ?_, fun what channel stale => ?_⟩
  · rw [System.proceed_self]
    exact attentive.next answer
  · rw [System.proceed_self]
    cases step_isOpen step closed with
    | inl closes => exact Hidden.of_only ((attentive.closes channel answer).1 closes)
    | inr still =>
        have hidden := informed.hidden channel still.1
        rw [pending] at hidden
        exact hidden.next still.2 answer
  · rw [notifier]
    exact informed.announces other
  · obtain ⟨earlier, unlooked⟩ := (step_stale step stale).resolve_right attentive.own.1
    rw [System.proceed_self, System.proceed_state]
    by_cases resumes : call.Resumes
    · exact Or.inr (Or.inr ((attentive.resumes what answer).1 resumes))
    · obtain signalled | owed | looks := informed.told what channel earlier
      · exact Or.inl (step_signalled step resumes signalled)
      · obtain ⟨other, owes⟩ := owed
        exact Or.inr (Or.inl ⟨other, by rw [notifier]; exact owes⟩)
      · rw [pending] at looks
        exact Or.inr (Or.inr ((looks.resolve_left unlooked).2 answer trivial))

theorem Announces.next {next : call.Answer → ControlM Unit}
    (announces : Announces (.call call next)) (answer : call.Answer) :
    Announces (next answer) where
  polite := announces.polite.2 answer
  owes channel := (announces.owes channel answer).2

theorem Informed.notifier_calls (informed : Informed system)
    (registered : Registered threadId system) {notifier : ι} {next : call.Answer → ControlM Unit}
    (pending : system.programs (some notifier) = .call call next)
    (step : controlStep (some notifier) system.state call answer after) :
    Informed (system.proceed (some notifier) after (next answer)) := by
  have announces := informed.announces notifier
  rw [pending] at announces
  obtain ⟨awake, closed⟩ := announces.polite.1
  have worker : (system.proceed (some notifier) after (next answer)).programs none =
      system.programs none := System.proceed_other _ (by simp)
  have others : ∀ other, other ≠ notifier →
      (system.proceed (some notifier) after (next answer)).programs (some other) =
        system.programs (some other) :=
    fun other different => System.proceed_other _ fun same => different (Option.some.inj same)
  have opens : ∀ channel, after.isOpen channel = false → system.state.isOpen channel = false :=
    fun channel shut => ((step_isOpen step shut).resolve_left (closed channel).2).1
  refine ⟨?_, fun channel shut => ?_, fun other => ?_, fun what channel stale => ?_⟩
  · rw [worker]
    exact informed.attentive
  · rw [worker]
    exact informed.hidden channel (opens channel shut)
  · by_cases same : other = notifier
    · subst same
      rw [System.proceed_self]
      exact announces.next answer
    · rw [others other same]
      exact informed.announces other
  · rw [worker, System.proceed_state]
    have owing : Owes channel (next answer) →
        ∃ other, Owes channel
          ((system.proceed (some notifier) after (next answer)).programs (some other)) :=
      fun owes => ⟨notifier, by rw [System.proceed_self]; exact owes⟩
    cases step_stale step stale with
    | inr stores => exact Or.inr (Or.inl (owing ((announces.owes channel answer).1 stores)))
    | inl earlier =>
        obtain signalled | owed | looks := informed.told what channel earlier.1
        · exact Or.inl (step_signalled step awake signalled)
        · obtain ⟨other, owes⟩ := owed
          by_cases same : other = notifier
          · subst same
            rw [pending] at owes
            cases owes with
            | inl signals =>
                refine Or.inl (step_signals step signals fun message => ?_)
                subst message
                cases call with
                | post id =>
                    have posts : PostsTo id (system.programs (some other)) := by
                      rw [pending]
                      rfl
                    obtain ⟨found, native⟩ := registered.posting other id posts
                    exact registered.queue (found ▸ native)
                | _ => exact signals.elim
            | inr later =>
                by_cases reaches : call.Reaches channel answer
                · exact Or.inr (Or.inl (owing (later.2 answer reaches)))
                · have hidden := informed.hidden channel (opens channel (step_reaches step reaches))
                  exact Or.inr (Or.inr (hidden.looks what))
          · exact Or.inr (Or.inl ⟨other, by rw [others other same]; exact owes⟩)
        · exact Or.inr (Or.inr looks)

theorem Informed.unwind (informed : Informed system) : Informed system.unwind := by
  have looks : ∀ what, ThreadLooks what exitGuard := fun _ =>
    ThreadLooks.of_only (exitGuard_quiet.mono fun _ quiet => quiet.1)
  refine ⟨?_, fun channel _ => ?_, fun other => ?_, fun what channel _ => ?_⟩
  · rw [System.unwind_worker]
    exact exitGuard_attentive
  · rw [System.unwind_worker]
    exact Hidden.of_only exitGuard_quiet
  · rw [System.unwind_notifier]
    exact informed.announces other
  · rw [System.unwind_worker]
    exact Or.inr (Or.inr (looks what))

theorem Informed.step (informed : Informed system) (registered : Registered threadId system)
    (step : System.Step system later) : Informed later := by
  cases step with
  | @calls thread call next answer state pending taken =>
      cases thread with
      | none => exact informed.worker_calls pending taken
      | some notifier => exact informed.notifier_calls registered pending taken
  | panics pending => exact informed.unwind

theorem Informed.reach (informed : Informed system) (registered : Registered threadId system)
    (reach : System.Reach system later) : Informed later := by
  induction reach with
  | refl => exact informed
  | tail earlier step ih => exact ih.step (registered.reach earlier) step

def Asleep (channel : Channel) (system : System ι) : Prop :=
  ∃ call next, system.programs none = .call call next ∧ call.SleepsOn channel

/-- The thread has told of all its changes so far. -/
def Settled (notifier : ι) (system : System ι) : Prop :=
  ∃ changes, system.programs (some notifier) = announce changes

/-- However the threads interleave, and wherever the worker panics: once every thread that has
changed a flag has also notified, a worker that sleeps without a pending signal has seen all
flags as they are. -/
theorem no_lost_wakeup {current : Watched → Bool} {changes : ι → List (Watched × Bool)}
    (native : threadId ≠ 0)
    (reach : System.Reach (System.opening settings laps threadId current changes) system)
    (settled : ∀ notifier, Settled notifier system) (asleep : Asleep channel system) :
    system.state.signalled channel = true ∨
      ∀ what, system.state.seen what = some (system.state.current what) := by
  have registered : Registered threadId (System.opening settings laps threadId current changes) :=
    opening_registered native
  have informed := (opening_informed native).reach registered reach
  by_cases signalled : system.state.signalled channel = true
  · exact Or.inl signalled
  · refine Or.inr fun what => ?_
    by_contra stale
    obtain told | owed | looks := informed.told what channel stale
    · exact signalled told
    · obtain ⟨notifier, owes⟩ := owed
      obtain ⟨rest, program⟩ := settled notifier
      rw [program] at owes
      cases rest with
      | nil => exact owes
      | cons change rest =>
          cases owes with
          | inl signals => cases channel <;> exact signals
          | inr later => exact later.1 trivial
    · obtain ⟨call, next, pending, sleeps⟩ := asleep
      rw [pending] at looks
      cases looks with
      | inl here =>
          cases call with
          | park timeout => exact here
          | msgWait timeout => exact here
          | _ => cases channel <;> exact sleeps
      | inr later =>
          cases call with
          | park timeout => exact later.1 trivial
          | msgWait timeout => exact later.1 trivial
          | _ => cases channel <;> exact sleeps

end Runs

/-- A worker without a process to watch, whose looks at the flags are the only thing that
matters. -/
def workAnswer (before : Control ι) : (call : WorkerCall) → call.Answer × Control ι
  | .loop (.load .stopping) =>
      (before.current .stopping, before.look .stopping (before.current .stopping))
  | .loop (.load .enabled) =>
      (before.current .enabled, before.look .enabled (before.current .enabled))
  | .loop (.load .aggressive) =>
      (before.current .aggressive, before.look .aggressive (before.current .aggressive))
  | .loop .takeReset => (before.current .resetRestore, before.look .resetRestore false)
  | .loop (.load .apply) | .loop (.guardedTick _) => (true, before)
  | .loop .alive => (false, before)
  | .loop .hooked => (before.hooked, before)
  | .loop (.install _) => (true, { before with hooked := true })
  | .loop .remove => ((), { before with hooked := false })
  | .loop (.publish _) | .loop (.watch _) | .loop (.wait _) | .loop .clearRestoreFailures
  | .loop .clearTransient | .reportRestore _ _ | .exited => ((), before)
  | .loop .now => ((0 : Nat), before)
  | .loop .scan => (some [], before)
  | .loop .events => ([], before)
  | .loop (.windowPid _) => ((0 : Int), before)
  | .loop (.offRetry state _) => (state, before)
  | .drainRestoreAllFinal => ((0, ""), before)

theorem workAnswer_step (before : Control ι) (call : WorkerCall) :
    workStep before call (workAnswer before call).1 (workAnswer before call).2 := by
  cases call with
  | loop call =>
      cases call with
      | load flag => cases flag <;> first | exact ⟨rfl, rfl⟩ | rfl
      | takeReset | hooked => exact ⟨rfl, rfl⟩
      | _ => rfl
  | _ => rfl

/-- A call that does not have to wait for the mutex. -/
def controlAnswer (thread : Thread ι) (before : Control ι) :
    (call : ControlCall) → call.Answer × Control ι
  | .work call => workAnswer before call
  | .hookInstalled => (before.hooked, before)
  | .park _ => ((), { before with token := false })
  | .msgWait _ => ((), before)
  | .drainMessages => ((), { before with queue := 0 })
  | .createQueue => ((), { before with queueExists := true })
  | .storeThreadId id => ((), { before with threadId := id })
  | .loadThreadId => (before.threadId, before)
  | .lockWake => ((), { before with holder := some thread })
  | .unlockWake => ((), { before with holder := none })
  | .setWake registered => ((), { before with wake := registered })
  | .getWake => (before.wake, before)
  | .unpark => ((), { before with token := true })
  | .post _ =>
      ((), if before.queueExists then { before with queue := before.queue + 1 } else before)
  | .store what value =>
      ((), { before with current := Function.update before.current what value })

theorem controlAnswer_step (thread : Thread ι) (before : Control ι) (call : ControlCall)
    (free : call ≠ .lockWake ∨ before.holder = none) :
    controlStep thread before call (controlAnswer thread before call).1
      (controlAnswer thread before call).2 := by
  cases call with
  | work call => exact workAnswer_step before call
  | lockWake => exact ⟨free.resolve_left (absurd rfl), rfl⟩
  | hookInstalled | loadThreadId | getWake => exact ⟨rfl, rfl⟩
  | post id =>
      by_cases queue : before.queueExists = true
      · exact Or.inl ⟨queue, if_pos queue⟩
      · exact Or.inr ⟨fun held => absurd held queue, if_neg queue⟩
  | _ => rfl

section Turns

variable [DecidableEq ι]

/-- One thread makes its next call, unless it has to wait for the mutex. -/
def System.turn (thread : Thread ι) (system : System ι) : System ι :=
  match system.programs thread with
  | .done _ => system
  | .call .lockWake next =>
      if system.state.holder = none then
        system.proceed thread { system.state with holder := some thread } (next ())
      else system
  | .call call next =>
      let result := controlAnswer thread system.state call
      system.proceed thread result.2 (next result.1)

theorem System.turn_reach (thread : Thread ι) (system : System ι) :
    System.Reach system (system.turn thread) := by
  unfold System.turn
  split
  · exact .refl
  · rename_i next pending
    split
    · rename_i free
      exact .single (.calls pending ⟨free, rfl⟩)
    · exact .refl
  · rename_i call next unlocked pending
    refine .single (.calls pending (controlAnswer_step thread system.state call (Or.inl ?_)))
    rintro rfl
    exact unlocked _ rfl HEq.rfl

theorem System.turns_reach (schedule : List (Thread ι)) (system : System ι) :
    System.Reach system (schedule.foldl (fun system thread => system.turn thread) system) := by
  induction schedule generalizing system with
  | nil => exact .refl
  | cons thread rest ih => exact (system.turn_reach thread).trans (ih _)

end Turns

def enabling : System Unit :=
  System.opening {} 3 7 (fun _ => false) fun _ => [(.enabled, true)]

/-- The worker sleeps, is told, and has come to its next sleep. -/
def toldWorker : System Unit :=
  (List.replicate 21 none ++ List.replicate 7 (some ()) ++ List.replicate 20 none).foldl
    (fun system thread => system.turn thread) enabling

/-- The worker is about to sleep on its token. -/
def parks : ControlM Unit → Bool
  | .call (.park _) _ => true
  | _ => false

theorem toldWorker_asleep : Asleep .park toldWorker := by
  have asleep : parks (toldWorker.programs none) = true := by decide
  generalize pending : toldWorker.programs none = program at asleep
  cases program with
  | done value => cases asleep
  | call op next =>
      cases op with
      | park timeout => exact ⟨_, next, pending, trivial⟩
      | _ => cases asleep

theorem toldWorker_informed :
    toldWorker.state.signalled .park = false ∧ toldWorker.state.seen .enabled = some true := by
  have reach : System.Reach enabling toldWorker := System.turns_reach _ enabling
  have settled : ∀ notifier, Settled notifier toldWorker := fun _ => ⟨[], rfl⟩
  have informed := no_lost_wakeup (by decide) reach settled toldWorker_asleep
  have unsignalled : toldWorker.state.signalled .park = false := by decide
  rw [unsignalled] at informed
  have current : toldWorker.state.current .enabled = true := by decide
  refine ⟨unsignalled, ?_⟩
  rw [informed.resolve_left (by simp) .enabled, current]

/-- The worker sleeps, and the other thread is about to post. -/
def postingThread : System Unit :=
  (List.replicate 21 none ++ List.replicate 5 (some ())).foldl
    (fun system thread => system.turn thread) enabling

theorem postingThread_reaches :
    postingThread.state.threadId = 7 ∧ ∀ value, postingThread.programs none ≠ .done value := by
  have reach : System.Reach enabling postingThread := System.turns_reach _ enabling
  have safe := post_reaches_worker (by decide) reach
  obtain ⟨_, id, _, alive⟩ := safe.1 () 7 _ rfl
  exact ⟨id, alive⟩

end LayoutAdblock.Engine
