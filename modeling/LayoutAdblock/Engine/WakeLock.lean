import LayoutAdblock.Engine.WorkerOrder

namespace LayoutAdblock.Engine

open Interaction
open Program (Before After anyAnswer)

/-! # The mutex of the registration

`notify_control` keeps the mutex until it has posted, so the thread it posts to
has not been able to unregister and end.
-/

namespace ControlCall

/-- Whether the thread must hold the mutex, or must not. A sleep under the mutex would keep
every notifier out. -/
def needs : ControlCall → Option Bool
  | .unlockWake | .setWake _ | .getWake | .unpark | .loadThreadId | .post _ => some true
  | .storeThreadId id => if id = 0 then some true else none
  | .lockWake | .work _ | .park _ | .msgWait _ | .drainMessages | .hookInstalled
  | .createQueue | .store _ _ => some false

/-- The call takes the mutex or gives it back. -/
def changes : ControlCall → Option Bool
  | .lockWake => some true
  | .unlockWake => some false
  | _ => none

def Publishes : ControlCall → Prop
  | .storeThreadId id => id ≠ 0
  | _ => False

def Clears : ControlCall → Prop
  | .storeThreadId id => id = 0
  | _ => False

/-- The call makes the message queue of the worker. -/
def CreatesQueue : ControlCall → Prop
  | .createQueue => True
  | _ => False

/-- The thread id was found, and it is that of a worker. -/
def Finds (id : Nat) : (call : ControlCall) → call.Answer → Prop
  | .loadThreadId, found => found = id ∧ id ≠ 0
  | _, _ => False

end ControlCall

open ControlCall

/-- Everything of the program that needs the mutex is done while it is held. -/
abbrev Bracketed (held : Bool) (program : ControlM Unit) : Prop :=
  program.Bracketed needs changes held

/-- The next call posts a message to the thread. -/
def PostsTo (id : Nat) : ControlM Unit → Prop
  | .call (.post target) _ => target = id
  | _ => False

/-- A thread id is stored for as long as the thread can be found, and cleared
before the thread ends. -/
structure Orderly (threadId : Nat) (program : ControlM Unit) : Prop where
  clears : program.After (fun call _ => call.Publishes) fun left =>
    left.Before anyAnswer Clears (fun _ => False) fun _ => False
  once : program.After (fun call _ => call.Publishes) fun left =>
    left.Only fun call => ¬ call.Publishes
  names : program.Only fun call => ∀ id, call = .storeThreadId id → id = 0 ∨ id = threadId

/-- What is posted is posted to the thread that was just found. -/
def PostsFound (program : ControlM Unit) : Prop :=
  ∀ id, program.After (fun call answer => ¬ call.Finds id answer) fun left => ¬ PostsTo id left

section Threads

variable {settings : Config.AppSettings} {laps threadId : Nat}

theorem ordinary_bracketed {call : ControlCall} (ordinary : call.Ordinary) :
    call.needs ≠ some true ∧ call.changes = none := by
  cases call with
  | work | hookInstalled | park | msgWait | drainMessages =>
      exact ⟨by simp [needs], rfl⟩
  | _ => exact ordinary.elim

theorem run_ordinary {α : Type} (program : WorkerM α) :
    (Program.translate implementWork program).Only Ordinary :=
  program.only_true.translate fun call _ => implementWork_ordinary call

theorem exitGuard_bracketed : Bracketed false exitGuard := by
  simp [exitGuard, unregisterWorker, control, Program.ask, Program.Bracketed, needs, changes]

theorem workerThread_bracketed (native : threadId ≠ 0) :
    Bracketed false (workerThread settings laps threadId) := by
  have registers : Bracketed false (registerWorker threadId) := by
    simp [registerWorker, control, Program.ask, Program.Bracketed, needs, changes, native]
  apply registers.bind
  intro _
  apply Program.Bracketed.bind
  · exact Program.Bracketed.of_only ((run_ordinary _).mono fun _ => ordinary_bracketed)
  · intro _
    exact exitGuard_bracketed

theorem notifyControl_bracketed : Bracketed false notifyControl := by
  simp only [notifyControl, control, Program.ask, Program.Bracketed, Program.call_bind,
    Program.done_bind]
  refine ⟨by simp [needs], fun _ => ⟨by simp [needs, changes], fun registered => ?_⟩⟩
  have posts : ∀ id, Bracketed true (postTo id >>= fun _ => control .unlockWake) := by
    intro id
    unfold postTo
    split
    · simp [control, Program.ask, Program.Bracketed, needs, changes]
    · simp [control, Program.ask, Program.Bracketed, needs, changes]
  cases registered with
  | true =>
      refine ⟨by simp [needs, changes], fun _ => ⟨by simp [needs, changes], fun id => ?_⟩⟩
      exact posts id
  | false =>
      refine ⟨by simp [needs, changes], fun id => ?_⟩
      exact posts id

theorem announce_bracketed (changes : List (Watched × Bool)) :
    Bracketed false (announce changes) := by
  induction changes with
  | nil => rfl
  | cons change rest ih =>
      refine ⟨by simp [needs], fun _ => ?_⟩
      exact notifyControl_bracketed.bind fun _ => ih

theorem ordinary_stores {call : ControlCall} (ordinary : call.Ordinary) (id : Nat) :
    call ≠ .storeThreadId id := by
  rintro rfl
  exact ordinary

theorem ordinary_not_publishes {call : ControlCall} (ordinary : call.Ordinary) :
    ¬ call.Publishes := by
  cases call with
  | storeThreadId id => exact ordinary.elim
  | _ => exact id

theorem exitGuard_clears :
    exitGuard.Before anyAnswer Clears (fun _ => False) fun _ => False :=
  Or.inr ⟨id, fun _ _ => Or.inl rfl⟩

theorem exitGuard_unpublished : exitGuard.Only fun call => ¬ call.Publishes := by
  simp [exitGuard, unregisterWorker, control, Program.ask, Program.Only, Publishes]

theorem exitGuard_orderly : Orderly threadId exitGuard where
  clears := After.of_only (exitGuard_unpublished.mono fun _ apart _ => apart)
  once := After.of_only (exitGuard_unpublished.mono fun _ apart _ => apart)
  names := by
    simp [exitGuard, unregisterWorker, control, Program.ask, Program.Only]

/-- `run_worker` after its registration, and the guard of the thread. -/
def registeredThread (settings : Config.AppSettings) (laps : Nat) : ControlM Unit := do
  let _ ← Program.translate implementWork (runWorker settings laps)
  exitGuard

theorem registeredThread_unpublished :
    (registeredThread settings laps).Only fun call => ¬ call.Publishes :=
  ((run_ordinary _).mono fun _ => ordinary_not_publishes).bind fun _ => exitGuard_unpublished

theorem registeredThread_clears :
    (registeredThread settings laps).Before anyAnswer Clears (fun _ => False) fun _ => False := by
  apply Before.after_only (Program.only_true _ |>.mono fun _ _ => id)
  intro _
  exact exitGuard_clears

theorem workerThread_orderly : Orderly threadId (workerThread settings laps threadId) where
  clears := by
    refine fun _ => ⟨fun publishes => publishes.elim, fun _ => ⟨fun _ => ?_, ?_⟩⟩
    · refine Or.inr ⟨id, fun _ _ => Or.inr ⟨id, fun _ _ => Or.inr ⟨id, fun _ _ => ?_⟩⟩⟩
      exact registeredThread_clears
    · refine After.of_only (Program.Only.mono ?_ fun _ apart _ => apart)
      exact ⟨id, fun _ => ⟨id, fun _ => ⟨id, fun _ => registeredThread_unpublished⟩⟩⟩
  once := by
    have unpublished : Program.Only (fun call : ControlCall => ¬ call.Publishes) (do
        control .lockWake
        control (.setWake true)
        control .unlockWake
        registeredThread settings laps) :=
      ⟨id, fun _ => ⟨id, fun _ => ⟨id, fun _ => registeredThread_unpublished⟩⟩⟩
    refine fun _ => ⟨fun publishes => publishes.elim, fun _ => ⟨fun _ => unpublished, ?_⟩⟩
    exact After.of_only (unpublished.mono fun _ apart _ => apart)
  names := by
    have rest : (registeredThread settings laps).Only
        fun call => ∀ id, call = .storeThreadId id → id = 0 ∨ id = threadId := by
      refine Program.Only.bind ((run_ordinary _).mono ?_) fun _ => exitGuard_orderly.names
      intro call ordinary id same
      exact absurd same (ordinary_stores ordinary id)
    have registers : (registerWorker threadId).Only
        fun call => ∀ id, call = .storeThreadId id → id = 0 ∨ id = threadId := by
      simp [registerWorker, control, Program.ask, Program.Only]
    exact registers.bind fun _ => rest

theorem announce_not_posting (changes : List (Watched × Bool)) (id : Nat) :
    ¬ PostsTo id (announce changes) := by
  cases changes with
  | nil => exact fun posts => posts
  | cons change rest => exact fun posts => posts

theorem notifyControl_only {kind : ControlCall → Prop} (lock : kind .lockWake)
    (get : kind .getWake) (unpark : kind .unpark) (load : kind .loadThreadId)
    (post : ∀ id, kind (.post id)) (unlock : kind .unlockWake) : notifyControl.Only kind := by
  refine ⟨lock, fun _ => ⟨get, fun registered => ?_⟩⟩
  have posts : ∀ id, (postTo id >>= fun _ => control .unlockWake).Only kind := by
    intro id
    apply Program.Only.bind
    · unfold postTo
      split
      · exact Program.only_ask.mpr (post id)
      · trivial
    · intro _
      exact Program.only_ask.mpr unlock
  cases registered with
  | true => exact ⟨unpark, fun _ => ⟨load, posts⟩⟩
  | false => exact ⟨load, posts⟩

theorem notifyControl_then (rest : ControlM Unit) :
    (notifyControl >>= fun _ => rest) = (do
      control .lockWake
      let registered ← control .getWake
      unparkWorker registered
      let id ← control .loadThreadId
      postTo id
      control .unlockWake
      rest) := by
  simp only [notifyControl, bind_assoc]

theorem notifyControl_postsFound {rest : ControlM Unit} (finds : PostsFound rest)
    (calm : ∀ id, ¬ PostsTo id rest) : PostsFound (notifyControl >>= fun _ => rest) := by
  rw [notifyControl_then]
  intro id
  have unlocks : (control .unlockWake >>= fun _ => rest).After
      (fun call answer => ¬ call.Finds id answer) fun left => ¬ PostsTo id left :=
    fun _ => ⟨fun _ => calm id, finds id⟩
  have posts : ∀ found,
      (¬ (found = id ∧ id ≠ 0) → ¬ PostsTo id
        (postTo found >>= fun _ => control .unlockWake >>= fun _ => rest)) ∧
      (postTo found >>= fun _ => control .unlockWake >>= fun _ => rest).After
        (fun call answer => ¬ call.Finds id answer) fun left => ¬ PostsTo id left := by
    intro found
    unfold postTo
    split
    · rename_i native
      refine ⟨fun apart target => ?_, fun _ => ⟨fun _ => fun posts => posts, unlocks⟩⟩
      obtain rfl : found = id := target
      exact apart ⟨rfl, native⟩
    · exact ⟨fun _ posts => posts, unlocks⟩
  refine fun _ => ⟨fun _ posts => posts, fun registered => ⟨fun _ => ?_, ?_⟩⟩
  · cases registered with
    | true => exact fun posts => posts
    | false => exact fun posts => posts
  · cases registered with
    | true => exact fun _ => ⟨fun _ posts => posts, fun found => posts found⟩
    | false => exact fun found => posts found

theorem announce_postsFound (changes : List (Watched × Bool)) : PostsFound (announce changes) := by
  induction changes with
  | nil =>
      intro id
      trivial
  | cons change rest ih =>
      intro id _
      refine ⟨fun _ posts => posts, ?_⟩
      exact notifyControl_postsFound ih (announce_not_posting rest) id

end Threads

variable {ι : Type} {before after : Control ι} {thread other : Thread ι} {call : ControlCall}
  {answer : call.Answer}

/-- What a call does to the mutex. -/
theorem step_holder (step : controlStep thread before call answer after) :
    (call.changes = some true → before.holder = none ∧ after.holder = some thread) ∧
      (call.changes = some false → after.holder = none) ∧
        (call.changes = none → after.holder = before.holder) := by
  cases call with
  | work call => exact ⟨nofun, nofun, fun _ => (workStep_signals step).holder⟩
  | lockWake =>
      obtain ⟨free, rfl⟩ := step
      exact ⟨fun _ => ⟨free, rfl⟩, nofun, nofun⟩
  | unlockWake =>
      obtain rfl := step
      exact ⟨nofun, fun _ => rfl, nofun⟩
  | post id =>
      refine ⟨nofun, nofun, fun _ => ?_⟩
      cases step with
      | inl arrives => rw [arrives.2]
      | inr full => rw [full.2]
  | hookInstalled | loadThreadId | getWake =>
      obtain ⟨_, rfl⟩ := step
      exact ⟨nofun, nofun, fun _ => rfl⟩
  | _ =>
      obtain rfl := step
      exact ⟨nofun, nofun, fun _ => rfl⟩

theorem step_threadId (step : controlStep thread before call answer after) :
    (∀ id, call = .storeThreadId id → after.threadId = id) ∧
      ((∀ id, call ≠ .storeThreadId id) → after.threadId = before.threadId) := by
  cases call with
  | work call => exact ⟨nofun, fun _ => (workStep_signals step).threadId⟩
  | storeThreadId id =>
      obtain rfl := step
      refine ⟨fun other same => ControlCall.storeThreadId.inj same, fun differs => ?_⟩
      exact absurd rfl (differs id)
  | lockWake | hookInstalled | loadThreadId | getWake =>
      obtain ⟨_, rfl⟩ := step
      exact ⟨nofun, fun _ => rfl⟩
  | post id =>
      cases step with
      | inl arrives => exact ⟨nofun, fun _ => by rw [arrives.2]⟩
      | inr full => exact ⟨nofun, fun _ => by rw [full.2]⟩
  | _ =>
      obtain rfl := step
      exact ⟨nofun, fun _ => rfl⟩

/-- The id of the worker's thread was found in the state. -/
theorem step_finds {id : Nat} (step : controlStep thread before call answer after)
    (finds : call.Finds id answer) : id = after.threadId ∧ id ≠ 0 := by
  cases call with
  | loadThreadId =>
      obtain ⟨found, rfl⟩ := step
      exact ⟨finds.1.symm.trans found, finds.2⟩
  | _ => exact finds.elim

theorem step_queueExists (step : controlStep thread before call answer after) :
    (call.CreatesQueue → after.queueExists = true) ∧
      (before.queueExists = true → after.queueExists = true) := by
  cases call with
  | work call =>
      exact ⟨fun creates => creates.elim, fun held => (workStep_signals step).queueExists.trans held⟩
  | createQueue =>
      obtain rfl := step
      exact ⟨fun _ => rfl, fun _ => rfl⟩
  | lockWake | hookInstalled | loadThreadId | getWake =>
      obtain ⟨_, rfl⟩ := step
      exact ⟨fun creates => creates.elim, fun held => held⟩
  | post id =>
      cases step with
      | inl arrives => exact ⟨fun creates => creates.elim, fun held => by rw [arrives.2]; exact held⟩
      | inr full => exact ⟨fun creates => creates.elim, fun held => by rw [full.2]; exact held⟩
  | _ =>
      obtain rfl := step
      exact ⟨fun creates => creates.elim, fun held => held⟩

section Runs

variable [DecidableEq ι] {system later : System ι} {threadId : Nat}

/-- Only threads in their sections have the mutex. -/
def Sections (system : System ι) : Prop :=
  ∀ thread, Bracketed (decide (system.state.holder = some thread)) (system.programs thread)

theorem held_step (sections : Sections system) {next : call.Answer → ControlM Unit}
    (pending : system.programs thread = .call call next)
    (step : controlStep thread system.state call answer after) :
    (call.changes).getD (decide (system.state.holder = some thread)) =
        decide (after.holder = some thread) ∧
      ∀ other, other ≠ thread →
        decide (after.holder = some other) = decide (system.state.holder = some other) := by
  obtain ⟨acquires, releases, keeps⟩ := step_holder step
  have own := sections thread
  rw [pending] at own
  cases change : call.changes with
  | none => simp [keeps change]
  | some held =>
      cases held with
      | true =>
          obtain ⟨free, taken⟩ := acquires change
          refine ⟨by simp [taken], fun other different => ?_⟩
          simp [free, taken, different.symm]
      | false =>
          have free := releases change
          have needed : call.needs = some true := by
            cases call with
            | unlockWake => rfl
            | _ => cases change
          have held := of_decide_eq_true (own.1 true needed)
          refine ⟨by simp [free], fun other different => ?_⟩
          simp [free, held, different.symm]

theorem Sections.step (sections : Sections system) (step : System.Step system later) :
    Sections later := by
  cases step with
  | @calls thread call next answer state pending taken =>
      obtain ⟨own, others⟩ := held_step sections pending taken
      intro other
      by_cases same : other = thread
      · subst same
        rw [System.proceed_self, System.proceed_state, ← own]
        have bracketed := sections other
        rw [pending] at bracketed
        exact bracketed.2 answer
      · rw [System.proceed_other _ same, System.proceed_state, others other same]
        exact sections other
  | @panics call next pending =>
      intro other
      rw [System.unwind_state]
      cases other with
      | none =>
          have bracketed := sections none
          rw [pending] at bracketed
          rw [bracketed.1 false rfl, System.unwind_worker]
          exact exitGuard_bracketed
      | some thread =>
          rw [System.unwind_notifier]
          exact sections (some thread)

/-- What is registered belongs to a thread that still has to unregister: its message queue
exists, no notifier registers anything, and a notifier on its way to post has the registered
number in hand. -/
structure Registered (threadId : Nat) (system : System ι) : Prop where
  sections : Sections system
  orderly : Orderly threadId (system.programs none)
  created : system.state.queueExists = false →
    (system.programs none).Before anyAnswer CreatesQueue Publishes fun _ => True
  queue : system.state.threadId ≠ 0 → system.state.queueExists = true
  named : system.state.threadId = 0 ∨ system.state.threadId = threadId
  published : system.state.threadId ≠ 0 →
    (system.programs none).Before anyAnswer Clears (fun _ => False) (fun _ => False) ∧
      (system.programs none).Only fun call => ¬ call.Publishes
  notifiers : ∀ thread, (system.programs (some thread)).Only fun call =>
    ∀ id, call ≠ .storeThreadId id
  found : ∀ thread, PostsFound (system.programs (some thread))
  posting : ∀ thread id, PostsTo id (system.programs (some thread)) →
    id = system.state.threadId ∧ id ≠ 0

theorem announce_stores (changes : List (Watched × Bool)) :
    (announce changes).Only fun call => ∀ id, call ≠ .storeThreadId id := by
  have notifies : notifyControl.Only fun call => ∀ id, call ≠ .storeThreadId id :=
    notifyControl_only nofun nofun nofun nofun (fun _ => nofun) nofun
  induction changes with
  | nil => trivial
  | cons change rest ih => exact ⟨nofun, fun _ => notifies.bind fun _ => ih⟩

theorem opening_registered {settings : Config.AppSettings} {laps : Nat}
    {current : Watched → Bool} {changes : ι → List (Watched × Bool)} (native : threadId ≠ 0) :
    Registered threadId (System.opening settings laps threadId current changes) where
  sections
    | none => workerThread_bracketed native
    | some thread => announce_bracketed (changes thread)
  orderly := workerThread_orderly
  created _ := Or.inl trivial
  queue absent := absurd rfl absent
  named := Or.inl rfl
  published absent := absurd rfl absent
  notifiers thread := announce_stores (changes thread)
  found thread := announce_postsFound (changes thread)
  posting thread id posts := absurd posts (announce_not_posting (changes thread) id)

omit [DecidableEq ι] in
theorem postsTo_call {id : Nat} {program : ControlM Unit} (posts : PostsTo id program) :
    ∃ next, program = .call (.post id) next := by
  unfold PostsTo at posts
  split at posts
  · subst posts
    exact ⟨_, rfl⟩
  · exact posts.elim

/-- While a thread posts, the worker does not touch its thread id. -/
theorem Registered.no_store (registered : Registered threadId system) {poster : ι} {id : Nat}
    (posts : PostsTo id (system.programs (some poster))) {next : call.Answer → ControlM Unit}
    (pending : system.programs none = .call call next) (stored : Nat) :
    call ≠ .storeThreadId stored := by
  rintro rfl
  obtain ⟨named, native⟩ := registered.posting poster id posts
  obtain ⟨rest, posting⟩ := postsTo_call posts
  have posterHolds := registered.sections (some poster)
  rw [posting] at posterHolds
  have holder := of_decide_eq_true (posterHolds.1 true rfl)
  by_cases clears : stored = 0
  · have workerHolds := registered.sections none
    rw [pending] at workerHolds
    have held := of_decide_eq_true (workerHolds.1 true (by simp [needs, clears]))
    rw [holder] at held
    cases held
  · have once := (registered.published (named ▸ native)).2
    rw [pending] at once
    exact once.1 clears

theorem Orderly.next {next : call.Answer → ControlM Unit}
    (orderly : Orderly threadId (.call call next)) (answer : call.Answer) :
    Orderly threadId (next answer) where
  clears := (orderly.clears answer).2
  once := (orderly.once answer).2
  names := orderly.names.2 answer

theorem Registered.worker_calls (registered : Registered threadId system)
    {next : call.Answer → ControlM Unit} (pending : system.programs none = .call call next)
    (step : controlStep none system.state call answer after) :
    Registered threadId (system.proceed none after (next answer)) := by
  obtain ⟨stores, keeps⟩ := step_threadId step
  obtain ⟨creates, exists_⟩ := step_queueExists step
  have orderly := registered.orderly
  have created := registered.created
  have published := registered.published
  rw [pending] at orderly created published
  have notifier : ∀ poster : ι, (system.proceed none after (next answer)).programs (some poster) =
      system.programs (some poster) := fun poster => System.proceed_other _ (by simp)
  refine ⟨registered.sections.step (.calls pending step), ?_, ?_, ?_, ?_, ?_, ?_, ?_, ?_⟩
  · rw [System.proceed_self]
    exact orderly.next answer
  · rw [System.proceed_self, System.proceed_state]
    intro absent
    have before : system.state.queueExists = false :=
      Bool.eq_false_iff.mpr fun held => by simp [exists_ held] at absent
    cases created before with
    | inl here => simp [creates here] at absent
    | inr left => exact left.2 answer trivial
  · rw [System.proceed_state]
    intro native
    apply exists_
    by_cases stored : ∃ id, call = .storeThreadId id
    · obtain ⟨id, rfl⟩ := stored
      rw [stores id rfl] at native
      by_contra absent
      cases created (Bool.eq_false_iff.mpr absent) with
      | inl here => exact here
      | inr left => exact left.1 native
    · rw [keeps fun id same => stored ⟨id, same⟩] at native
      exact registered.queue native
  · rw [System.proceed_state]
    by_cases stored : ∃ id, call = .storeThreadId id
    · obtain ⟨id, rfl⟩ := stored
      rw [stores id rfl]
      exact orderly.names.1 id rfl
    · rw [keeps fun id same => stored ⟨id, same⟩]
      exact registered.named
  · rw [System.proceed_self, System.proceed_state]
    intro native
    by_cases stored : ∃ id, call = .storeThreadId id
    · obtain ⟨id, rfl⟩ := stored
      rw [stores id rfl] at native
      exact ⟨(orderly.clears answer).1 native, (orderly.once answer).1 native⟩
    · have kept := keeps fun id same => stored ⟨id, same⟩
      obtain ⟨clears, once⟩ := published (kept ▸ native)
      refine ⟨?_, once.2 answer⟩
      cases clears with
      | inr left => exact left.2 answer trivial
      | inl here =>
          cases call with
          | storeThreadId id => exact absurd ⟨id, rfl⟩ stored
          | _ => exact here.elim
  · intro poster
    rw [notifier]
    exact registered.notifiers poster
  · intro poster
    rw [notifier]
    exact registered.found poster
  · intro poster id posts
    rw [notifier] at posts
    rw [System.proceed_state, keeps (registered.no_store posts pending)]
    exact registered.posting poster id posts

theorem Registered.notifier_calls (registered : Registered threadId system) {notifier : ι}
    {next : call.Answer → ControlM Unit}
    (pending : system.programs (some notifier) = .call call next)
    (step : controlStep (some notifier) system.state call answer after) :
    Registered threadId (system.proceed (some notifier) after (next answer)) := by
  have stores := registered.notifiers notifier
  have found := registered.found notifier
  rw [pending] at stores found
  have kept := (step_threadId step).2 stores.1
  have exists_ := (step_queueExists step).2
  have worker : (system.proceed (some notifier) after (next answer)).programs none =
      system.programs none := System.proceed_other _ (by simp)
  have others : ∀ poster, poster ≠ notifier →
      (system.proceed (some notifier) after (next answer)).programs (some poster) =
        system.programs (some poster) :=
    fun poster different => System.proceed_other _ fun same => different (Option.some.inj same)
  refine ⟨registered.sections.step (.calls pending step), ?_, ?_, ?_, ?_, ?_, ?_, ?_, ?_⟩
  · rw [worker]
    exact registered.orderly
  · rw [worker, System.proceed_state]
    intro absent
    apply registered.created
    exact Bool.eq_false_iff.mpr fun held => by simp [exists_ held] at absent
  · rw [System.proceed_state, kept]
    exact fun native => exists_ (registered.queue native)
  · rw [System.proceed_state, kept]
    exact registered.named
  · rw [worker, System.proceed_state, kept]
    exact registered.published
  · intro poster
    by_cases same : poster = notifier
    · subst same
      rw [System.proceed_self]
      exact stores.2 answer
    · rw [others poster same]
      exact registered.notifiers poster
  · intro poster
    by_cases same : poster = notifier
    · subst same
      rw [System.proceed_self]
      exact fun id => (found id answer).2
    · rw [others poster same]
      exact registered.found poster
  · intro poster id posts
    rw [System.proceed_state]
    by_cases same : poster = notifier
    · subst same
      rw [System.proceed_self] at posts
      by_contra unfound
      have finds : call.Finds id answer := by
        by_contra none
        exact (found id answer).1 none posts
      exact unfound (step_finds step finds)
    · rw [others poster same] at posts
      rw [kept]
      exact registered.posting poster id posts

theorem Registered.unwind (registered : Registered threadId system) {call : WorkerCall}
    {next : call.Answer → ControlM Unit}
    (pending : system.programs none = .call (.work call) next) :
    Registered threadId system.unwind := by
  refine ⟨registered.sections.step (.panics pending), ?_, fun _ => ?_, registered.queue,
    registered.named, fun _ => ?_, fun poster => ?_, fun poster => ?_, fun poster id posts => ?_⟩
  · rw [System.unwind_worker]
    exact exitGuard_orderly
  · rw [System.unwind_worker]
    exact Before.of_only exitGuard_unpublished
  · rw [System.unwind_worker]
    exact ⟨exitGuard_clears, exitGuard_unpublished⟩
  · rw [System.unwind_notifier]
    exact registered.notifiers poster
  · rw [System.unwind_notifier]
    exact registered.found poster
  · rw [System.unwind_notifier] at posts
    exact registered.posting poster id posts

theorem Registered.step (registered : Registered threadId system)
    (step : System.Step system later) : Registered threadId later := by
  cases step with
  | @calls thread call next answer state pending taken =>
      cases thread with
      | none => exact registered.worker_calls pending taken
      | some notifier => exact registered.notifier_calls pending taken
  | panics pending => exact registered.unwind pending

theorem Registered.reach (registered : Registered threadId system)
    (reach : System.Reach system later) : Registered threadId later := by
  induction reach with
  | refl => exact registered
  | tail _ step ih => exact ih.step step

/-- A thread that sleeps or works does not have the mutex. -/
def Outside : ControlM Unit → Prop
  | .call call _ => call.needs = some false
  | .done _ => True

/-- However the threads interleave, and wherever the worker panics, a message is only posted to
a worker that has its queue and has not ended, and no thread keeps the mutex while it sleeps or
works. -/
theorem post_reaches_worker {settings : Config.AppSettings} {laps : Nat}
    {current : Watched → Bool} {changes : ι → List (Watched × Bool)} (native : threadId ≠ 0)
    (reach : System.Reach (System.opening settings laps threadId current changes) system) :
    (∀ notifier id next, system.programs (some notifier) = .call (.post id) next →
      id = threadId ∧ system.state.threadId = threadId ∧ system.state.queueExists = true ∧
        ∀ value, system.programs none ≠ .done value) ∧
    ∀ thread, system.state.holder = some thread → ¬ Outside (system.programs thread) := by
  have registered := (opening_registered native).reach reach
  constructor
  · intro notifier id next pending
    have posts : PostsTo id (system.programs (some notifier)) := by
      rw [pending]
      rfl
    obtain ⟨same, nonzero⟩ := registered.posting notifier id posts
    have published : system.state.threadId ≠ 0 := same ▸ nonzero
    have named := registered.named.resolve_left published
    refine ⟨same.trans named, named, registered.queue published, ?_⟩
    intro value ended
    have clears := (registered.published published).1
    rw [ended] at clears
    exact clears
  · intro thread holds outside
    have sections := registered.sections thread
    rw [decide_eq_true holds] at sections
    cases program : system.programs thread with
    | done value =>
        rw [program] at sections
        cases sections
    | call call next =>
        rw [program] at sections outside
        cases sections.1 false outside

end Runs

end LayoutAdblock.Engine
