import LayoutAdblock.Tray.Desk

namespace LayoutAdblock.Tray

open Interaction Interaction.Fallible Environment Relation

/-! # The icon comes back

While the window lives, the icon is there, or something is under way that brings it
back: the shell is down and will announce itself, its announcement is in the queue,
the retry timer runs, or the user was told that it does not.  Only a window that could
not register for the announcement has nothing once the shell has ended.
-/

variable {shell : Shell} {world before after : TrayWorld}

namespace TrayWorld

/-- What no message changes: the number the window listens for is that of the session or
none, no one posts the end of the window, and no click has been lost. -/
structure Steady (shell : Shell) (world : TrayWorld) : Prop where
  listens : world.listens = 0 ∨ world.listens = shell.taskbarCreated
  posted : ∀ message ∈ world.queue, message.msg ≠ wmDestroy
  commands : world.clicked = world.handled ++ world.inHand ++ world.pending

/-- The shell will announce itself, or has, to a window that listens. -/
def Awaited (world : TrayWorld) : Prop :=
  world.listens ≠ 0 ∧
    (world.shellUp = false ∨ ∃ message ∈ world.queue, message.msg = world.listens)

/-- `RegisterWindowMessageW` failed, and the shell that took the icon may be gone: the window
does not hear of the next one. -/
def Deaf (world : TrayWorld) : Prop :=
  world.listens = 0 ∧ world.shellEnded = true

/-- The icon is there, or something that is going to happen puts it back, or Windows gave
the window no message to hear of the shell by. -/
def Shown (world : TrayWorld) : Prop :=
  world.icon = true ∨ world.Awaited ∨ world.Deaf

/-- What the window thinks of its icon is right, or is being put right: an icon it believes
in is shown, and for any other the retry timer runs unless `SetTimer` has failed. -/
structure Watched (world : TrayWorld) : Prop where
  shown : world.iconAdded = true → world.Shown
  retried : world.iconAdded = false → world.retryTimer = true ∨ world.timerFailed = true

/-- The window is there and the loop has not been told to quit. -/
structure Open (world : TrayWorld) : Prop where
  alive : world.alive = true
  unquit : world.quit = false

/-- Nothing of the tray is left: no window, no icon, no timer and no message. -/
structure Closed (world : TrayWorld) : Prop where
  dead : world.alive = false
  quit : world.quit = true
  icon : world.icon = false
  retryTimer : world.retryTimer = false
  statusTimer : world.statusTimer = false
  trayHwnd : world.trayHwnd = false
  queue : world.queue = []

/-- What holds whenever the thread waits for a message: nothing is lost, and the icon is
there or will be. -/
def Sound (shell : Shell) (world : TrayWorld) : Prop :=
  world.Steady shell ∧ (world.Open ∧ world.Watched ∨ world.Closed)

end TrayWorld

open TrayWorld

theorem TrayWorld.Steady.moves (steady : before.Steady shell) (moves : Moves shell before after) :
    after.Steady shell := by
  cases moves with
  | shellEnds => exact ⟨steady.listens, steady.posted, steady.commands⟩
  | shellStarts down =>
      refine ⟨steady.listens, ?_, steady.commands⟩
      intro message member
      have announced : shell.taskbarCreated ≠ wmDestroy := by
        have large := shell.registered
        unfold wmDestroy
        omega
      split at member
      · rcases List.mem_append.mp member with old | new
        · exact steady.posted message old
        · rw [List.mem_singleton.mp new]
          exact announced
      · exact steady.posted message member
  | posted alive other =>
      refine ⟨steady.listens, ?_, steady.commands⟩
      intro message member
      rcases List.mem_append.mp member with old | new
      · exact steady.posted message old
      · rw [List.mem_singleton.mp new]
        exact other

theorem TrayWorld.Shown.moves (shown : before.Shown) (alive : before.alive = true)
    (steady : before.Steady shell) (moves : Moves shell before after) : after.Shown := by
  cases moves with
  | shellEnds =>
      by_cases deaf : before.listens = 0
      · exact .inr (.inr ⟨deaf, rfl⟩)
      · exact .inr (.inl ⟨deaf, .inl rfl⟩)
  | shellStarts down =>
      have announced : before.listens ≠ 0 → ∃ message ∈ (if before.alive = true
          then before.queue ++ [{ msg := shell.taskbarCreated }] else before.queue),
          message.msg = before.listens := by
        intro hears
        refine ⟨{ msg := shell.taskbarCreated }, ?_, (steady.listens.resolve_left hears).symm⟩
        rw [if_pos alive]
        exact List.mem_append_right _ (List.mem_singleton_self _)
      rcases shown with icon | ⟨hears, _⟩ | deaf
      · exact .inl icon
      · exact .inr (.inl ⟨hears, .inr (announced hears)⟩)
      · exact .inr (.inr deaf)
  | posted alive other =>
      rcases shown with icon | ⟨hears, down | ⟨message, member, listened⟩⟩ | deaf
      · exact .inl icon
      · exact .inr (.inl ⟨hears, .inl down⟩)
      · exact .inr (.inl ⟨hears, .inr ⟨message, List.mem_append_left _ member, listened⟩⟩)
      · exact .inr (.inr deaf)

theorem TrayWorld.Open.moves (isOpen : before.Open) (moves : Moves shell before after) :
    after.Open := by
  cases moves with
  | shellEnds | shellStarts | posted => exact ⟨isOpen.alive, isOpen.unquit⟩

theorem TrayWorld.Closed.moves (closed : before.Closed) (moves : Moves shell before after) :
    after.Closed := by
  cases moves with
  | shellEnds =>
      exact ⟨closed.dead, closed.quit, rfl, closed.retryTimer, closed.statusTimer,
        closed.trayHwnd, closed.queue⟩
  | shellStarts down =>
      refine ⟨closed.dead, closed.quit, closed.icon, closed.retryTimer, closed.statusTimer,
        closed.trayHwnd, ?_⟩
      rw [if_neg (by rw [closed.dead]; nofun)]
      exact closed.queue
  | posted alive other => exact absurd (closed.dead.symm.trans alive) (by nofun)

theorem TrayWorld.Watched.moves (watched : before.Watched) (steady : before.Steady shell)
    (isOpen : before.Open) (moves : Moves shell before after) : after.Watched := by
  have added : after.iconAdded = before.iconAdded := by cases moves <;> rfl
  have timer : after.retryTimer = before.retryTimer := by cases moves <;> rfl
  have failed : after.timerFailed = before.timerFailed := by cases moves <;> rfl
  constructor
  · intro known
    exact (watched.shown (added ▸ known)).moves isOpen.alive steady moves
  · rw [added, timer, failed]
    exact watched.retried

theorem TrayWorld.Sound.moves (sound : before.Sound shell) (moves : Moves shell before after) :
    after.Sound shell := by
  refine ⟨sound.1.moves moves, ?_⟩
  rcases sound.2 with ⟨isOpen, watched⟩ | closed
  · exact .inl ⟨isOpen.moves moves, watched.moves sound.1 isOpen moves⟩
  · exact .inr (closed.moves moves)

/-- The thread runs with commands in hand, and the window listens to that number. -/
structure Running (number : Nat) (hand : List TrayCommand) (world : TrayWorld) : Prop where
  awake : world.waiting = false
  listens : world.listens = number
  inHand : world.inHand = hand

/-- The window lives; nothing is said about the icon. -/
structure Busy (shell : Shell) (number : Nat) (hand : List TrayCommand) (world : TrayWorld) :
    Prop where
  running : Running number hand world
  steady : world.Steady shell
  isOpen : world.Open

/-- The loop is about to take the next message, and the world is in order. -/
structure Ready (shell : Shell) (number : Nat) (hand : List TrayCommand) (world : TrayWorld) :
    Prop where
  running : Running number hand world
  sound : world.Sound shell

def Stable (shell : Shell) (kept : TrayWorld → Prop) : Prop :=
  ∀ before after, kept before → Moves shell before after → kept after

theorem Stable.moved {kept : TrayWorld → Prop} (stable : Stable shell kept) (held : kept before)
    (moved : Moved shell before after) : kept after := by
  induction moved with
  | refl => exact held
  | tail _ moves ih => exact stable _ _ ih moves

theorem Stable.and {first second : TrayWorld → Prop} (left : Stable shell first)
    (right : Stable shell second) : Stable shell fun world => first world ∧ second world :=
  fun before after held moves => ⟨left before after held.1 moves, right before after held.2 moves⟩

section Stability

variable {number : Nat} {hand : List TrayCommand}

theorem running_stable : Stable shell (Running number hand) := by
  intro before after running moves
  cases moves with
  | shellEnds | shellStarts | posted => exact ⟨running.awake, running.listens, running.inHand⟩

theorem busy_stable : Stable shell (Busy shell number hand) := fun before after busy moves =>
  { running := running_stable before after busy.running moves
    steady := busy.steady.moves moves
    isOpen := busy.isOpen.moves moves }

theorem ready_stable : Stable shell (Ready shell number hand) := fun before after ready moves =>
  { running := running_stable before after ready.running moves
    sound := ready.sound.moves moves }

end Stability

theorem Busy.ready {number : Nat} {hand : List TrayCommand} (busy : Busy shell number hand world)
    (watched : world.Watched) : Ready shell number hand world :=
  ⟨busy.running, busy.steady, .inl ⟨busy.isOpen, watched⟩⟩

def SoundWaits (shell : Shell) (seen : TrayWorld) : Prop :=
  seen.waiting = true → seen.Sound shell

theorem soundWaits_of_awake (awake : world.waiting = false) : SoundWaits shell world :=
  fun waits => absurd waits (by rw [awake]; nofun)

theorem TrayWorld.Sound.waits (sound : world.Sound shell) :
    SoundWaits shell { world with waiting := true } := by
  obtain ⟨steady, ⟨isOpen, watched⟩ | closed⟩ := sound
  · exact fun _ => ⟨{ steady with }, .inl ⟨{ isOpen with }, { watched with }⟩⟩
  · exact fun _ => ⟨{ steady with }, .inr { closed with }⟩

def TrayCall.Ordinary : TrayCall → Prop
  | .trackPopupMenu _ | .onCommand _ | .getMessage => False
  | _ => True

section Nested

variable {pumps sees : TrayWorld → TrayWorld → Prop}

theorem ordinary_wp {call : TrayCall} {kept : call.Answer → TrayWorld → Prop}
    (ordinary : call.Ordinary) (stable : ∀ answer, Stable shell (kept answer))
    (awake : ∀ answer after, kept answer after → after.waiting = false)
    (settled : ∀ answer settled, Settles shell world call answer settled → kept answer settled) :
    (deskWith shell pumps sees).wp (SoundWaits shell) (tray call) kept world := by
  have steps : ∀ answer after, (deskWith shell pumps sees).step call world answer after →
      kept answer after := by
    intro answer after step
    have parts : ∃ between, Settles shell world call answer between ∧
        Moved shell between after := by
      cases call with
      | trackPopupMenu | onCommand | getMessage => exact ordinary.elim
      | _ => exact step
    obtain ⟨between, settles, moved⟩ := parts
    exact (stable answer).moved (settled answer between settles) moved
  apply wp_ask
  · intro seen torn
    cases call with
    | trackPopupMenu | onCommand | getMessage => exact ordinary.elim
    | _ => exact torn.elim
  · intro answer after step
    have held := steps answer after step
    exact ⟨soundWaits_of_awake (awake answer after held), held⟩

/-- What a modal loop, as a menu runs one, may do and show: it leaves the world ready for
the next message, and every instant inside it is sound. -/
structure Modal (shell : Shell) (pumps sees : TrayWorld → TrayWorld → Prop) : Prop where
  pumps : ∀ number hand before after, Ready shell number hand before → pumps before after →
    Ready shell number hand after
  sees : ∀ number hand before seen, Ready shell number hand before → sees before seen →
    SoundWaits shell seen

/-- A call that leaves icon, queue and window alone. -/
def TrayCall.Harmless : TrayCall → Prop
  | .captureStatus | .startupFlag | .readTip | .storeTip _ | .notifyModify | .iconAdded
  | .setLastError _ | .setTimer _ _ | .onReady | .pushPending _ | .defWindowProc
  | .createPopupMenu | .trackPopupMenu _ => True
  | _ => False

variable {number : Nat} {hand : List TrayCommand}

theorem Ready.settles {call : TrayCall} {answer : call.Answer} {settled : TrayWorld}
    (ready : Ready shell number hand world) (harmless : call.Harmless) (ordinary : call.Ordinary)
    (settles : Settles shell world call answer settled) : Ready shell number hand settled := by
  obtain ⟨running, steady, state⟩ := ready
  cases call with
  | captureStatus | startupFlag | notifyModify | onReady | defWindowProc | createPopupMenu =>
      cases settles
      exact ⟨running, steady, state⟩
  | readTip | iconAdded =>
      obtain ⟨-, rfl⟩ := settles
      exact ⟨running, steady, state⟩
  | storeTip szTip =>
      cases settles
      refine ⟨{ running with }, { steady with }, ?_⟩
      rcases state with ⟨isOpen, watched⟩ | closed
      · exact .inl ⟨{ isOpen with }, { watched with }⟩
      · exact .inr { closed with }
  | setLastError text =>
      cases settles
      refine ⟨{ running with }, { steady with }, ?_⟩
      rcases state with ⟨isOpen, watched⟩ | closed
      · exact .inl ⟨{ isOpen with }, ⟨watched.shown, fun _ => .inr rfl⟩⟩
      · exact .inr { closed with }
  | setTimer id interval =>
      obtain ⟨armed, rfl⟩ := settles
      refine ⟨{ running with }, { steady with }, ?_⟩
      rcases state with ⟨isOpen, watched⟩ | closed
      · refine .inl ⟨{ isOpen with }, watched.shown, fun missing => ?_⟩
        rcases watched.retried missing with retry | failed
        · exact .inl (by simp [retry])
        · exact .inr failed
      · have unarmed : answer = false := by
          cases answer with
          | false => rfl
          | true => exact absurd (closed.dead.symm.trans (armed rfl)) (by nofun)
        subst unarmed
        exact .inr { closed with
          retryTimer := by simp [closed.retryTimer]
          statusTimer := by simp [closed.statusTimer] }
  | pushPending command =>
      cases settles
      refine ⟨{ running with }, ⟨steady.listens, steady.posted, ?_⟩, ?_⟩
      · rw [steady.commands, List.append_assoc]
      · rcases state with ⟨isOpen, watched⟩ | closed
        · exact .inl ⟨{ isOpen with }, { watched with }⟩
        · exact .inr { closed with }
  | trackPopupMenu => exact ordinary.elim
  | _ => exact harmless.elim

theorem harmless_ready (modal : Modal shell pumps sees) {α : Type} {program : TrayM α}
    (only : program.Only TrayCall.Harmless) (ready : Ready shell number hand world) :
    (deskWith shell pumps sees).wp (SoundWaits shell) program
      (fun _ => Ready shell number hand) world := by
  refine wp_of_step only ?_ ?_ (fun seen held => soundWaits_of_awake held.running.awake) ready
  · intro call before seen harmless held torn
    cases call with
    | trackPopupMenu items => exact modal.sees _ _ _ _ held torn
    | getMessage | onCommand => exact harmless.elim
    | _ => exact torn.elim
  · intro call before answer after harmless held step
    cases call with
    | trackPopupMenu items => exact modal.pumps _ _ _ _ held step
    | getMessage | onCommand => exact harmless.elim
    | _ =>
        obtain ⟨settled, settles, moved⟩ := step
        exact ready_stable.moved (held.settles harmless trivial settles) moved

/-- Between an attempt and what is noted about it. -/
structure Tried (shell : Shell) (number : Nat) (hand : List TrayCommand) (added : Bool)
    (world : TrayWorld) : Prop where
  busy : Busy shell number hand world
  shown : added = true → world.Shown

theorem tried_stable {added : Bool} : Stable shell (Tried shell number hand added) :=
  fun before after tried moves =>
    { busy := busy_stable before after tried.busy moves
      shown := fun success =>
        (tried.shown success).moves tried.busy.isOpen.alive tried.busy.steady moves }

/-- Calls that change nothing the window relies on while it is busy. -/
theorem busy_wp {call : TrayCall} (ordinary : call.Ordinary)
    (settled : ∀ answer settled, Settles shell world call answer settled →
      Busy shell number hand settled) :
    (deskWith shell pumps sees).wp (SoundWaits shell) (tray call)
      (fun _ => Busy shell number hand) world :=
  ordinary_wp ordinary (fun _ => busy_stable) (fun _ _ held => held.running.awake) settled

theorem notifyAdd_tried (busy : Busy shell number hand world) :
    (deskWith shell pumps sees).wp (SoundWaits shell) (tray .notifyAdd)
      (Tried shell number hand) world := by
  refine ordinary_wp trivial (fun _ => tried_stable) (fun _ _ tried => tried.busy.running.awake) ?_
  rintro added settled ⟨icon, shows, -, rfl⟩
  obtain ⟨running, steady, isOpen⟩ := busy
  refine ⟨⟨{ running with }, { steady with }, { isOpen with }⟩, ?_⟩
  exact fun success => .inl (shows success)

theorem notifyDelete_busy (busy : Busy shell number hand world) :
    (deskWith shell pumps sees).wp (SoundWaits shell) (tray .notifyDelete)
      (fun _ => Busy shell number hand) world := by
  refine busy_wp trivial ?_
  rintro _ settled rfl
  obtain ⟨running, steady, isOpen⟩ := busy
  exact ⟨{ running with }, { steady with }, { isOpen with }⟩

/-- The flag is set; a failure has yet to be followed up. -/
structure Noted (shell : Shell) (number : Nat) (hand : List TrayCommand) (added : Bool)
    (world : TrayWorld) : Prop where
  tried : Tried shell number hand added world
  noted : world.iconAdded = added

theorem noted_stable {added : Bool} : Stable shell (Noted shell number hand added) := by
  intro before after noted moves
  refine ⟨tried_stable before after noted.tried moves, ?_⟩
  cases moves with
  | shellEnds | shellStarts | posted => exact noted.noted

theorem reconcile_ready {added : Bool} (tried : Tried shell number hand added world) :
    (deskWith shell pumps sees).wp (SoundWaits shell) (reconcileRegistration added)
      (fun _ => Ready shell number hand) world := by
  have noted : (deskWith shell pumps sees).wp (SoundWaits shell) (tray (.setIconAdded added))
      (fun _ => Noted shell number hand added) world := by
    refine ordinary_wp trivial (fun _ => noted_stable)
      (fun _ _ noted => noted.tried.busy.running.awake) ?_
    rintro _ settled rfl
    obtain ⟨⟨running, steady, isOpen⟩, shown⟩ := tried
    exact ⟨⟨⟨{ running with }, { steady with }, { isOpen with }⟩, shown⟩, rfl⟩
  apply wp_seq noted
  rintro _ between noted
  obtain ⟨⟨⟨running, steady, isOpen⟩, shown⟩, known⟩ := noted
  cases added with
  | true =>
      refine ordinary_wp trivial (fun _ => ready_stable) (fun _ _ ready => ready.running.awake) ?_
      rintro _ settled rfl
      refine Busy.ready ⟨{ running with }, { steady with }, { isOpen with }⟩ ?_
      exact ⟨fun _ => shown rfl, fun missing => absurd (known.symm.trans missing) (by nofun)⟩
  | false =>
      have armed : (deskWith shell pumps sees).wp (SoundWaits shell)
          (tray (.setTimer trayRetryTimerId retryIntervalMs)) (fun armed after =>
            Noted shell number hand false after ∧ (armed = true → Ready shell number hand after))
          between := by
        refine ordinary_wp trivial (fun armed => noted_stable.and ?_)
          (fun _ _ held => held.1.tried.busy.running.awake) ?_
        · intro before after ready moves success
          exact ready_stable before after (ready success) moves
        · rintro armed settled ⟨-, rfl⟩
          have busy : Busy shell number hand { between with
              retryTimer := between.retryTimer ||
                (armed && decide (trayRetryTimerId = trayRetryTimerId))
              statusTimer := between.statusTimer ||
                (armed && decide (trayRetryTimerId = trayStatusTimerId)) } :=
            ⟨{ running with }, { steady with }, { isOpen with }⟩
          refine ⟨⟨⟨busy, nofun⟩, known⟩, fun success => ?_⟩
          refine busy.ready ⟨fun present => ?_, fun _ => .inl ?_⟩
          · exact absurd (known.symm.trans present) (by nofun)
          · simp [success]
      apply wp_seq armed
      rintro armed later ⟨noted, ready⟩
      cases armed with
      | true => exact ready rfl
      | false =>
          refine ordinary_wp trivial (fun _ => ready_stable)
            (fun _ _ ready => ready.running.awake) ?_
          rintro _ settled rfl
          obtain ⟨⟨⟨running, steady, isOpen⟩, -⟩, known⟩ := noted
          refine Busy.ready ⟨{ running with }, { steady with }, { isOpen with }⟩ ?_
          exact ⟨fun present => absurd (known.symm.trans present) (by nofun), fun _ => .inr rfl⟩

theorem onTaskbarCreated_ready (busy : Busy shell number hand world) :
    (deskWith shell pumps sees).wp (SoundWaits shell) onTaskbarCreated
      (fun _ => Ready shell number hand) world := by
  apply wp_seq (notifyDelete_busy busy)
  intro _ between busy
  apply wp_seq (notifyAdd_tried busy)
  intro added later tried
  exact reconcile_ready tried

theorem harmless_asks {α : Type} {call : TrayCall} {rest : call.Answer → TrayM α}
    (harmless : call.Harmless) (only : ∀ answer, (rest answer).Only TrayCall.Harmless) :
    (tray call >>= rest).Only TrayCall.Harmless :=
  Program.Only.bind ⟨harmless, fun _ => trivial⟩ only

theorem harmless_unless {condition : Prop} [Decidable condition] {program : TrayM Unit}
    (only : program.Only TrayCall.Harmless) :
    (if condition then return () else program).Only TrayCall.Harmless := by
  split
  · trivial
  · exact only

theorem refreshTooltip_harmless : refreshTooltip.Only TrayCall.Harmless := by
  refine harmless_asks trivial fun added => harmless_unless ?_
  refine harmless_asks trivial fun snapshot => harmless_asks trivial fun szTip => ?_
  -- As a variable: what follows would otherwise compute the text.
  generalize tipMatches szTip (statusTooltip snapshot) = same
  exact harmless_unless (harmless_asks trivial fun _ => ⟨trivial, fun _ => trivial⟩)

theorem showMenu_harmless : showMenu.Only TrayCall.Harmless := by
  refine harmless_asks trivial fun created => harmless_unless ?_
  refine harmless_asks trivial fun snapshot => harmless_asks trivial fun startup => ?_
  exact ⟨trivial, fun _ => trivial⟩

/-- A window that is there and watched. -/
structure Serving (shell : Shell) (number : Nat) (hand : List TrayCommand) (world : TrayWorld) :
    Prop where
  busy : Busy shell number hand world
  watched : world.Watched

theorem Serving.ready (serving : Serving shell number hand world) :
    Ready shell number hand world :=
  serving.busy.ready serving.watched

theorem serving_stable : Stable shell (Serving shell number hand) :=
  fun before after serving moves =>
    { busy := busy_stable before after serving.busy moves
      watched := serving.watched.moves serving.busy.steady serving.busy.isOpen moves }

theorem onTimer_ready (modal : Modal shell pumps sees) {id : Nat}
    (serving : Serving shell number hand world) :
    (deskWith shell pumps sees).wp (SoundWaits shell) (onTimer id)
      (fun _ => Ready shell number hand) world := by
  unfold onTimer
  split
  · have known : (deskWith shell pumps sees).wp (SoundWaits shell) (tray .iconAdded)
        (fun _ => Serving shell number hand) world := by
      refine ordinary_wp trivial (fun _ => serving_stable)
        (fun _ _ held => held.busy.running.awake) ?_
      rintro known settled ⟨-, rfl⟩
      exact serving
    apply wp_seq known
    intro known between serving
    cases known with
    | true => exact serving.ready
    | false =>
        apply wp_seq (notifyAdd_tried serving.busy)
        intro added later tried
        exact reconcile_ready tried
  · split
    · exact harmless_ready modal refreshTooltip_harmless serving.ready
    · exact serving.ready

/-- `WM_DESTROY` has been handled up to some point: the window is forgotten first, then both
timers are stopped, the icon is taken off, and the loop is told to quit. -/
structure Leaving (shell : Shell) (number : Nat) (hand : List TrayCommand) (stage : Nat)
    (world : TrayWorld) : Prop where
  running : Running number hand world
  steady : world.Steady shell
  trayHwnd : 1 ≤ stage → world.trayHwnd = false
  retryTimer : 2 ≤ stage → world.retryTimer = false
  statusTimer : 3 ≤ stage → world.statusTimer = false
  icon : 4 ≤ stage → world.icon = false
  quit : 5 ≤ stage → world.quit = true

theorem leaving_stable {stage : Nat} : Stable shell (Leaving shell number hand stage) := by
  intro before after leaving moves
  have running := running_stable before after leaving.running moves
  have steady := leaving.steady.moves moves
  cases moves with
  | shellEnds => exact { leaving with running, steady, icon := fun _ => rfl }
  | shellStarts | posted => exact { leaving with running, steady }

theorem leaving_wp {call : TrayCall} {stage : Nat} (ordinary : call.Ordinary)
    (settled : ∀ answer settled, Settles shell world call answer settled →
      Leaving shell number hand stage settled) :
    (deskWith shell pumps sees).wp (SoundWaits shell) (tray call)
      (fun _ => Leaving shell number hand stage) world :=
  ordinary_wp ordinary (fun _ => leaving_stable) (fun _ _ held => held.running.awake) settled

theorem onDestroy_leaves (leaving : Leaving shell number hand 0 world) :
    (deskWith shell pumps sees).wp (SoundWaits shell) onDestroy
      (fun _ => Leaving shell number hand 5) world := by
  have forgets : (deskWith shell pumps sees).wp (SoundWaits shell) (tray (.storeTrayHwnd false))
      (fun _ => Leaving shell number hand 1) world := by
    refine leaving_wp trivial ?_
    rintro _ settled rfl
    exact {
      running := { leaving.running with }
      steady := { leaving.steady with }
      trayHwnd := fun _ => rfl
      retryTimer := by omega
      statusTimer := by omega
      icon := by omega
      quit := by omega }
  apply wp_seq forgets
  intro _ world leaving
  have unretried : (deskWith shell pumps sees).wp (SoundWaits shell)
      (tray (.killTimer trayRetryTimerId)) (fun _ => Leaving shell number hand 2) world := by
    refine leaving_wp trivial ?_
    rintro _ settled rfl
    exact {
      running := { leaving.running with }
      steady := { leaving.steady with }
      trayHwnd := fun _ => leaving.trayHwnd (by omega)
      retryTimer := fun _ => by simp
      statusTimer := by omega
      icon := by omega
      quit := by omega }
  apply wp_seq unretried
  intro _ world leaving
  have unrefreshed : (deskWith shell pumps sees).wp (SoundWaits shell)
      (tray (.killTimer trayStatusTimerId)) (fun _ => Leaving shell number hand 3) world := by
    refine leaving_wp trivial ?_
    rintro _ settled rfl
    exact {
      running := { leaving.running with }
      steady := { leaving.steady with }
      trayHwnd := fun _ => leaving.trayHwnd (by omega)
      retryTimer := fun _ => by simp [leaving.retryTimer]
      statusTimer := fun _ => by simp
      icon := by omega
      quit := by omega }
  apply wp_seq unrefreshed
  intro _ world leaving
  have deletes : (deskWith shell pumps sees).wp (SoundWaits shell) (tray .notifyDelete)
      (fun _ => Leaving shell number hand 4) world := by
    refine leaving_wp trivial ?_
    rintro _ settled rfl
    exact {
      running := { leaving.running with }
      steady := { leaving.steady with }
      trayHwnd := fun _ => leaving.trayHwnd (by omega)
      retryTimer := fun _ => leaving.retryTimer (by omega)
      statusTimer := fun _ => leaving.statusTimer (by omega)
      icon := fun _ => rfl
      quit := by omega }
  apply wp_seq deletes
  intro _ world leaving
  refine leaving_wp trivial ?_
  rintro _ settled rfl
  exact {
    running := { leaving.running with }
    steady := { leaving.steady with }
    trayHwnd := fun _ => leaving.trayHwnd (by omega)
    retryTimer := fun _ => leaving.retryTimer (by omega)
    statusTimer := fun _ => leaving.statusTimer (by omega)
    icon := fun _ => leaving.icon (by omega)
    quit := fun _ => rfl }

/-- What is left when the window is gone. -/
structure Gone (shell : Shell) (number : Nat) (hand : List TrayCommand) (world : TrayWorld) :
    Prop where
  running : Running number hand world
  steady : world.Steady shell
  closed : world.Closed

theorem gone_stable : Stable shell (Gone shell number hand) := fun before after gone moves =>
  { running := running_stable before after gone.running moves
    steady := gone.steady.moves moves
    closed := gone.closed.moves moves }

theorem Gone.ready (gone : Gone shell number hand world) : Ready shell number hand world :=
  ⟨gone.running, gone.steady, .inr gone.closed⟩

theorem destroyWindow_ready (busy : Busy shell number hand world) :
    (deskWith shell pumps sees).wp (SoundWaits shell) destroyWindow
      (fun _ => Ready shell number hand) world := by
  have leaving : Leaving shell number hand 0 world :=
    { running := busy.running
      steady := busy.steady
      trayHwnd := by omega
      retryTimer := by omega
      statusTimer := by omega
      icon := by omega
      quit := by omega }
  apply wp_seq (onDestroy_leaves leaving)
  intro _ later left
  have gone : (deskWith shell pumps sees).wp (SoundWaits shell) (tray .windowDestroyed)
      (fun _ => Gone shell number hand) later := by
    refine ordinary_wp trivial (fun _ => gone_stable) (fun _ _ gone => gone.running.awake) ?_
    rintro _ settled rfl
    exact {
      running := { left.running with }
      steady := { left.steady with posted := nofun }
      closed :=
        { dead := rfl
          quit := left.quit (by omega)
          icon := left.icon (by omega)
          retryTimer := left.retryTimer (by omega)
          statusTimer := left.statusTimer (by omega)
          trayHwnd := left.trayHwnd (by omega)
          queue := rfl } }
  exact wp_mono gone fun _ _ held => held.ready

/-- A message has been taken from the queue; where it is the one that announces the shell,
the icon is owed to it. -/
structure Taken (shell : Shell) (number : Nat) (hand : List TrayCommand) (message : Message)
    (world : TrayWorld) : Prop where
  busy : Busy shell number hand world
  other : message.msg ≠ wmDestroy
  watched : message.msg ≠ number ∨ number = 0 → world.Watched

theorem Ready.take {message : Message} {front back : List Message}
    (ready : Ready shell number hand world) (found : world.queue = front ++ message :: back) :
    Taken shell number hand message { world with queue := front ++ back } := by
  obtain ⟨running, steady, ⟨isOpen, watched⟩ | closed⟩ := ready
  · have kept : ∀ other ∈ front ++ back, other ∈ world.queue := by
      intro other member
      rw [found]
      rcases List.mem_append.mp member with early | late
      · exact List.mem_append_left _ early
      · exact List.mem_append_right _ (List.mem_cons_of_mem _ late)
    refine ⟨⟨{ running with }, ⟨steady.listens, ?_, steady.commands⟩, { isOpen with }⟩, ?_, ?_⟩
    · exact fun other member => steady.posted other (kept other member)
    · apply steady.posted
      rw [found]
      exact List.mem_append_right _ List.mem_cons_self
    · intro apart
      -- What owed the icon to the queue is still there, unless it is the message just taken.
      refine ⟨fun present => ?_, watched.retried⟩
      rcases watched.shown present with icon | ⟨hears, down | ⟨owed, member, listened⟩⟩ | deaf
      · exact .inl icon
      · exact .inr (.inl ⟨hears, .inl down⟩)
      · refine .inr (.inl ⟨hears, .inr ⟨owed, ?_, listened⟩⟩)
        rw [found] at member
        rcases List.mem_append.mp member with early | late
        · exact List.mem_append_left _ early
        · rcases List.mem_cons.mp late with same | behind
          · have hit : message.msg = number := by rw [← same, listened, running.listens]
            rcases apart with differs | silent
            · exact absurd hit differs
            · exact absurd (running.listens.trans silent) hears
          · exact List.mem_append_right _ behind
      · exact .inr (.inr deaf)
  · rw [closed.queue] at found
    exact absurd found (by simp)

theorem Taken.serving {message : Message} (taken : Taken shell number hand message world)
    (apart : message.msg ≠ number ∨ number = 0) : Serving shell number hand world :=
  ⟨taken.busy, taken.watched apart⟩

theorem Busy.apart {message : Message} (busy : Busy shell number hand world)
    (small : message.msg < 0xC000) : message.msg ≠ number ∨ number = 0 := by
  have large := shell.registered
  have listens := busy.steady.listens
  rw [busy.running.listens] at listens
  omega

theorem defWindowProc_ready (modal : Modal shell pumps sees) {message : Message}
    (serving : Serving shell number hand world) :
    (deskWith shell pumps sees).wp (SoundWaits shell) (defWindowProc message)
      (fun _ => Ready shell number hand) world := by
  unfold defWindowProc
  split
  · exact destroyWindow_ready serving.busy
  · exact harmless_ready modal ⟨trivial, fun _ => trivial⟩ serving.ready

theorem onCommandMessage_ready {command : TrayCommand}
    (serving : Serving shell number hand world) :
    (deskWith shell pumps sees).wp (SoundWaits shell) (do
        tray (.pushPending command)
        if command = .exit then destroyWindow else return ())
      (fun _ => Ready shell number hand) world := by
  have pushed : (deskWith shell pumps sees).wp (SoundWaits shell) (tray (.pushPending command))
      (fun _ => Serving shell number hand) world := by
    refine ordinary_wp trivial (fun _ => serving_stable)
      (fun _ _ held => held.busy.running.awake) ?_
    rintro _ settled rfl
    obtain ⟨⟨running, steady, isOpen⟩, watched⟩ := serving
    refine ⟨⟨{ running with }, ⟨steady.listens, steady.posted, ?_⟩, { isOpen with }⟩,
      { watched with }⟩
    rw [steady.commands, List.append_assoc]
  apply wp_seq pushed
  intro _ between serving
  split
  · exact destroyWindow_ready serving.busy
  · exact serving.ready

theorem wndProc_ready (modal : Modal shell pumps sees) {message : Message}
    (taken : Taken shell number hand message world) :
    (deskWith shell pumps sees).wp (SoundWaits shell) (wndProc number message)
      (fun _ => Ready shell number hand) world := by
  unfold wndProc
  -- The numbers the window knows are below those that are registered for a session.
  have small : ∀ code, message.msg = code → code < 0xC000 → Serving shell number hand world :=
    fun code same bound => taken.serving (taken.busy.apart (same ▸ bound))
  by_cases fromIcon : message.msg = wmTray
  · rw [if_pos fromIcon]
    have serving := small wmTray fromIcon (by decide)
    dsimp only
    split
    · exact harmless_ready modal showMenu_harmless serving.ready
    · exact serving.ready
  rw [if_neg fromIcon]
  by_cases command : message.msg = wmCommand
  · rw [if_pos command]
    have serving := small wmCommand command (by decide)
    split
    · exact serving.ready
    · exact onCommandMessage_ready serving
  rw [if_neg command, if_neg taken.other]
  by_cases timer : message.msg = wmTimer
  · rw [if_pos timer]
    exact onTimer_ready modal (small wmTimer timer (by decide))
  rw [if_neg timer]
  split
  · exact onTaskbarCreated_ready taken.busy
  · rename_i differs
    apply defWindowProc_ready modal
    apply taken.serving
    simp only [Bool.and_eq_true, decide_eq_true_eq, not_and] at differs
    by_cases same : message.msg = number
    · have none := differs same
      exact .inr (by omega)
    · exact .inl same

end Nested

variable {number : Nat} {hand : List TrayCommand}

theorem taken_stable {message : Message} : Stable shell (Taken shell number hand message) :=
  fun before after taken moves =>
    { busy := busy_stable before after taken.busy moves
      other := taken.other
      watched := fun apart =>
        (taken.watched apart).moves taken.busy.steady taken.busy.isOpen moves }

theorem idle_modal : Modal shell (Moved shell) fun before seen => ∃ world,
    Moved shell before world ∧ seen = { world with waiting := true } where
  pumps _ _ _ _ ready moved := ready_stable.moved ready moved
  sees := by
    rintro number hand before seen ready ⟨world, moved, rfl⟩
    have reached := ready_stable.moved ready moved
    exact reached.sound.waits

theorem pumps_modal {nested : Environment TrayCall TrayCall.Answer TrayWorld}
    (handles : ∀ number hand message world, Taken shell number hand message world →
      nested.wp (SoundWaits shell) (wndProc number message)
        (fun _ => Ready shell number hand) world) :
    Modal shell (Pumps shell nested) (Sees shell nested) := by
  have pumps : ∀ number hand before after, Ready shell number hand before →
      Pumps shell nested before after → Ready shell number hand after := by
    intro number hand before after ready pumped
    induction pumped with
    | refl => exact ready
    | tail _ step ih =>
        rcases step with moves | ⟨message, front, back, found, ran⟩
        · exact ready_stable _ _ ih moves
        · obtain rfl := ih.running.listens
          have reached := wp_runs (handles _ _ _ _ (ih.take found)) ran
          exact reached
  refine ⟨pumps, ?_⟩
  rintro number hand before seen ready
    ⟨world, pumped, rfl | ⟨message, front, back, found, observed⟩⟩
  · exact (pumps _ _ _ _ ready pumped).sound.waits
  · have reached := pumps _ _ _ _ ready pumped
    obtain rfl := reached.running.listens
    have taken := reached.take found
    exact wp_observes (handles _ _ _ _ taken)
      (soundWaits_of_awake taken.busy.running.awake) observed

/-- Whatever the depth, a modal loop leaves the tray as it found it. -/
theorem trayDesk_modal (depth : Nat) : ∃ pumps sees,
    trayDesk shell depth = deskWith shell pumps sees ∧ Modal shell pumps sees := by
  induction depth with
  | zero => exact ⟨_, _, rfl, idle_modal⟩
  | succ depth ih =>
      -- The procedure that this depth dispatches to runs on the desk of the depth below.
      obtain ⟨pumps, sees, same, modal⟩ := ih
      refine ⟨_, _, rfl, pumps_modal ?_⟩
      intro number hand message world taken
      rw [same]
      exact wndProc_ready modal taken

section Loop

variable {pumps sees : TrayWorld → TrayWorld → Prop}

/-- What the loop knows once it has asked for a message. None means that it is to quit. -/
def Fetched (shell : Shell) (number : Nat) : Option Message → TrayWorld → Prop
  | none => Gone shell number []
  | some message => Taken shell number [] message

theorem getMessage_fetches (ready : Ready shell number [] world) :
    (deskWith shell pumps sees).wp (SoundWaits shell) (tray .getMessage)
      (Fetched shell number) world := by
  apply wp_ask
  · rintro seen ⟨reached, moved, rfl⟩
    exact (ready_stable.moved ready moved).sound.waits
  · rintro fetched after ⟨world, settled, arrived, settles, moved⟩
    have ready := ready_stable.moved ready arrived
    cases fetched with
    | none =>
        obtain ⟨quit, rfl⟩ := settles
        obtain ⟨running, steady, ⟨isOpen, -⟩ | closed⟩ := ready
        · exact absurd (isOpen.unquit.symm.trans quit) (by nofun)
        · have gone := gone_stable.moved ⟨running, steady, closed⟩ moved
          exact ⟨soundWaits_of_awake gone.running.awake, gone⟩
    | some message =>
        obtain ⟨front, back, found, rfl⟩ := settles
        have taken := taken_stable.moved (ready.take found) moved
        exact ⟨soundWaits_of_awake taken.busy.running.awake, taken⟩

theorem drainPending_ready (ready : Ready shell number [] world) :
    (deskWith shell pumps sees).wp (SoundWaits shell) (tray .drainPending)
      (fun commands => Ready shell number commands) world := by
  have kept : ∀ commands, Stable shell (Ready shell number commands) := fun _ => ready_stable
  refine ordinary_wp trivial kept (fun _ _ ready => ready.running.awake) ?_
  rintro commands settled ⟨rfl, rfl⟩
  obtain ⟨running, steady, state⟩ := ready
  refine ⟨⟨running.awake, running.listens, ?_⟩, ⟨steady.listens, steady.posted, ?_⟩, ?_⟩
  · simp only [running.inHand, List.nil_append]
  · rw [steady.commands]
    simp only [running.inHand, List.append_nil, List.nil_append]
  · rcases state with ⟨isOpen, watched⟩ | closed
    · exact .inl ⟨{ isOpen with }, { watched with }⟩
    · exact .inr { closed with }

theorem Ready.handle {command : TrayCommand} {rest : List TrayCommand}
    (ready : Ready shell number (command :: rest) world) :
    Ready shell number rest (world.handle command) := by
  obtain ⟨running, steady, state⟩ := ready
  refine ⟨⟨running.awake, running.listens, ?_⟩, ⟨steady.listens, steady.posted, ?_⟩, ?_⟩
  · simp only [TrayWorld.handle, running.inHand, List.tail_cons]
  · have told := steady.commands
    rw [running.inHand] at told
    simp only [TrayWorld.handle, running.inHand, List.tail_cons, told, List.append_assoc,
      List.cons_append, List.nil_append]
  · rcases state with ⟨isOpen, watched⟩ | closed
    · exact .inl ⟨{ isOpen with }, { watched with }⟩
    · exact .inr { closed with }

theorem onCommand_ready (modal : Modal shell pumps sees) {command : TrayCommand}
    {rest : List TrayCommand} (ready : Ready shell number (command :: rest) world) :
    (deskWith shell pumps sees).wp (SoundWaits shell) (tray (.onCommand command))
      (fun _ => Ready shell number rest) world := by
  apply wp_ask
  · intro seen torn
    exact modal.sees _ _ _ _ ready.handle torn
  · intro _ after step
    have reached := modal.pumps _ _ _ _ ready.handle step
    exact ⟨soundWaits_of_awake reached.running.awake, reached⟩

theorem messageLoop_ends (modal : Modal shell pumps sees) (messages : Nat)
    (ready : Ready shell number [] world) :
    (deskWith shell pumps sees).wp (SoundWaits shell) (messageLoop number messages)
      (fun ended after => ended = true → Gone shell number [] after) world := by
  induction messages generalizing world with
  | zero => exact nofun
  | succ messages ih =>
      apply wp_seq (getMessage_fetches ready)
      intro fetched between held
      cases fetched with
      | none => exact fun _ => held
      | some message =>
          apply wp_seq (wndProc_ready modal held)
          intro _ world ready
          apply wp_seq (drainPending_ready ready)
          intro commands world ready
          have handled : (deskWith shell pumps sees).wp (SoundWaits shell)
              (Program.forEach (fun command => tray (.onCommand command)) commands)
              (fun _ => Ready shell number []) world :=
            wp_forEach (fun command rest before => onCommand_ready modal) ready
          apply wp_seq handled
          intro _ world ready
          exact ih ready

def Blank (world : TrayWorld) : Prop :=
  ∃ shellUp shellEnded, world = { shellUp := shellUp, shellEnded := shellEnded }

theorem blank_stable : Stable shell Blank := by
  rintro before after ⟨shellUp, shellEnded, rfl⟩ moves
  cases moves with
  | shellEnds => exact ⟨false, true, rfl⟩
  | shellStarts down => exact ⟨true, shellEnded, rfl⟩
  | posted alive other => cases alive

theorem blank_wp (call : TrayCall) (ordinary : call.Ordinary) (blank : Blank world)
    (settled : ∀ answer settled, Settles shell world call answer settled → settled = world) :
    (deskWith shell pumps sees).wp (SoundWaits shell) (tray call) (fun _ => Blank) world := by
  refine ordinary_wp ordinary (fun _ => blank_stable) ?_ ?_
  · rintro _ after ⟨shellUp, shellEnded, rfl⟩
    rfl
  · intro answer after settles
    rw [settled answer after settles]
    exact blank

theorem waitForShell_blank (blank : Blank world) :
    (deskWith shell pumps sees).wp (SoundWaits shell) waitForShell (fun _ => Blank) world := by
  apply wp_seq (blank_wp .shellTrayPresent trivial blank fun _ _ settles => settles)
  intro present between blank
  split
  · exact blank
  · apply wp_seq (blank_wp .waitForShellReady trivial blank fun _ _ settles => settles)
    exact fun _ _ held => held

theorem createWindow_busy (blank : Blank world) :
    (deskWith shell pumps sees).wp (SoundWaits shell) (tray .createWindow)
      (outcome (fun _ => Busy shell 0 []) fun _ => Blank) world := by
  obtain ⟨shellUp, shellEnded, rfl⟩ := blank
  refine ordinary_wp trivial ?_ ?_ ?_
  · rintro (error | window)
    · exact blank_stable
    · exact busy_stable
  · rintro (error | window) after held
    · obtain ⟨_, _, rfl⟩ := held
      rfl
    · exact held.running.awake
  · rintro (error | window) settled rfl
    · exact ⟨shellUp, shellEnded, rfl⟩
    · exact ⟨⟨rfl, rfl, rfl⟩, ⟨.inl rfl, nofun, rfl⟩, ⟨rfl, rfl⟩⟩

theorem retryAdd_tried (delays : List Nat) (busy : Busy shell number [] world) :
    (deskWith shell pumps sees).wp (SoundWaits shell) (retryAdd delays)
      (Tried shell number []) world := by
  induction delays generalizing world with
  | nil => exact ⟨busy, nofun⟩
  | cons delay rest ih =>
      apply wp_seq (notifyDelete_busy busy)
      intro _ world busy
      have slept : (deskWith shell pumps sees).wp (SoundWaits shell) (tray (.sleep delay))
          (fun _ => Busy shell number []) world := by
        refine busy_wp trivial ?_
        rintro _ settled rfl
        exact busy
      apply wp_seq slept
      intro _ world busy
      apply wp_seq (notifyAdd_tried busy)
      intro added world tried
      cases added with
      | true => exact tried
      | false => exact ih tried.busy

theorem addIcon_tried (busy : Busy shell number [] world) :
    (deskWith shell pumps sees).wp (SoundWaits shell) addIcon (Tried shell number []) world := by
  apply wp_seq (notifyAdd_tried busy)
  intro added world tried
  cases added with
  | true => exact tried
  | false => exact retryAdd_tried _ tried.busy

theorem registerMessage_busy (busy : Busy shell 0 [] world) :
    (deskWith shell pumps sees).wp (SoundWaits shell) (tray .registerWindowMessage)
      (fun number => Busy shell number []) world := by
  have kept : ∀ number, Stable shell (Busy shell number []) := fun _ => busy_stable
  refine ordinary_wp trivial kept (fun _ _ busy => busy.running.awake) ?_
  rintro number settled ⟨known, rfl⟩
  obtain ⟨running, steady, isOpen⟩ := busy
  exact ⟨⟨running.awake, rfl, running.inHand⟩, ⟨known, steady.posted, steady.commands⟩,
    { isOpen with }⟩

theorem storeTip_busy {szTip : List UInt16} (busy : Busy shell number [] world) :
    (deskWith shell pumps sees).wp (SoundWaits shell) (tray (.storeTip szTip))
      (fun _ => Busy shell number []) world := by
  refine busy_wp trivial ?_
  rintro _ settled rfl
  obtain ⟨running, steady, isOpen⟩ := busy
  exact ⟨{ running with }, { steady with }, { isOpen with }⟩

theorem openTray_ready (modal : Modal shell pumps sees) (busy : Busy shell 0 [] world) :
    (deskWith shell pumps sees).wp (SoundWaits shell) openTray
      (fun number => Ready shell number []) world := by
  have captured : (deskWith shell pumps sees).wp (SoundWaits shell) (tray .captureStatus)
      (fun _ => Busy shell 0 []) world := by
    refine busy_wp trivial ?_
    rintro _ settled rfl
    exact busy
  apply wp_seq captured
  intro snapshot world busy
  apply wp_seq (storeTip_busy busy)
  intro _ world busy
  apply wp_seq (registerMessage_busy busy)
  intro number world busy
  apply wp_seq (addIcon_tried busy)
  intro added world tried
  have told : (deskWith shell pumps sees).wp (SoundWaits shell) (tray (.storeTrayHwnd true))
      (fun _ => Tried shell number [] added) world := by
    refine ordinary_wp trivial (fun _ => tried_stable)
      (fun _ _ tried => tried.busy.running.awake) ?_
    rintro _ settled rfl
    obtain ⟨⟨running, steady, isOpen⟩, shown⟩ := tried
    exact ⟨⟨{ running with }, { steady with }, { isOpen with }⟩, shown⟩
  apply wp_seq told
  intro _ world tried
  apply wp_seq (reconcile_ready tried)
  intro _ world ready
  have only : Program.Only TrayCall.Harmless
      (tray (.setTimer trayStatusTimerId trayStatusIntervalMs)) := ⟨trivial, fun _ => trivial⟩
  apply wp_seq (harmless_ready modal only ready)
  intro _ world ready
  have only : Program.Only TrayCall.Harmless (tray .onReady) := ⟨trivial, fun _ => trivial⟩
  apply wp_seq (harmless_ready modal only ready)
  exact fun _ _ held => held

/-- How a run that ends leaves the desktop. -/
structure LeftClean (world : TrayWorld) : Prop where
  icon : world.icon = false
  retryTimer : world.retryTimer = false
  statusTimer : world.statusTimer = false
  trayHwnd : world.trayHwnd = false
  commands : world.clicked = world.handled ++ world.pending

theorem Gone.leftClean (gone : Gone shell number [] world) : LeftClean world where
  icon := gone.closed.icon
  retryTimer := gone.closed.retryTimer
  statusTimer := gone.closed.statusTimer
  trayHwnd := gone.closed.trayHwnd
  commands := by
    have told := gone.steady.commands
    rwa [gone.running.inHand, List.append_nil] at told

theorem Blank.leftClean (blank : Blank world) : LeftClean world := by
  obtain ⟨shellUp, shellEnded, rfl⟩ := blank
  exact ⟨rfl, rfl, rfl, rfl, rfl⟩

theorem closeTray_gone (gone : Gone shell number [] world) :
    (deskWith shell pumps sees).wp (SoundWaits shell) closeTray
      (fun _ => Gone shell number []) world := by
  have forgets : (deskWith shell pumps sees).wp (SoundWaits shell) (tray (.storeTrayHwnd false))
      (fun _ => Gone shell number []) world := by
    refine ordinary_wp trivial (fun _ => gone_stable) (fun _ _ gone => gone.running.awake) ?_
    rintro _ settled rfl
    obtain ⟨running, steady, closed⟩ := gone
    exact ⟨{ running with }, { steady with }, { closed with trayHwnd := rfl }⟩
  apply wp_seq forgets
  intro _ world gone
  refine ordinary_wp trivial (fun _ => gone_stable) (fun _ _ gone => gone.running.awake) ?_
  rintro _ settled rfl
  obtain ⟨running, steady, closed⟩ := gone
  exact ⟨{ running with }, { steady with }, { closed with icon := rfl }⟩

/-- What can fail before the window is created leaves nothing behind. -/
theorem blank_attempt {program : TrayM (Except String Unit)}
    (holds : (deskWith shell pumps sees).wp (SoundWaits shell) program (fun _ => Blank) world) :
    (deskWith shell pumps sees).wp (SoundWaits shell) (attempt program).run
      (outcome (fun _ => Blank) fun _ => LeftClean) world := by
  apply wp_attempt
  apply wp_mono holds
  rintro (error | value) after blank
  · exact blank.leftClean
  · exact blank

theorem runLoop_ends (modal : Modal shell pumps sees) (messages : Nat) (blank : Blank world) :
    (deskWith shell pumps sees).wp (SoundWaits shell) (runLoop messages).run
      (outcome (fun ended after => ended = true → LeftClean after) fun _ => LeftClean) world := by
  apply wp_try (wp_always (waitForShell_blank blank))
  intro _ world blank
  apply wp_try (blank_attempt (blank_wp .getModuleHandle trivial blank fun _ _ settles => settles))
  intro _ world blank
  apply wp_try (blank_attempt (blank_wp .loadAppIcon trivial blank fun _ _ settles => settles))
  intro _ world blank
  apply wp_try (wp_always (blank_wp .registerClass trivial blank fun _ _ settles => settles))
  intro _ world blank
  have created : (deskWith shell pumps sees).wp (SoundWaits shell)
      (attempt (tray .createWindow)).run
      (outcome (fun _ => Busy shell 0 []) fun _ => LeftClean) world := by
    apply wp_attempt
    apply wp_mono (createWindow_busy blank)
    rintro (error | window) after held
    · exact Blank.leftClean held
    · exact held
  apply wp_try created
  intro _ world busy
  apply wp_try (wp_always (openTray_ready modal busy))
  intro number world ready
  apply wp_try (wp_always (messageLoop_ends modal messages ready))
  intro ended world held
  cases ended with
  | false => exact nofun
  | true =>
      apply wp_try (wp_always (closeTray_gone (held rfl)))
      intro _ world gone _
      exact gone.leftClean

end Loop

/-- Over every run, with modal loops to any depth: whenever the tray waits for a message, its icon
is shown or about to come back, unless the window could not register for the shell's announcement
and the shell has ended; and every command that arrived is handled, in hand or pending.  A run that
ends leaves no icon and no timer, and has handled every command it took up. -/
theorem tray_kept {depth messages : Nat} {shellUp : Bool} :
    (∀ seen, (trayDesk shell depth).Observes (runLoop messages).run { shellUp := shellUp } seen →
      seen.waiting = true → seen.Sound shell) ∧
    ∀ result after, (trayDesk shell depth).Runs (runLoop messages).run { shellUp := shellUp }
      result after → result ≠ .ok false → LeftClean after := by
  obtain ⟨pumps, sees, same, modal⟩ : ∃ pumps sees,
      trayDesk shell depth = deskWith shell pumps sees ∧ Modal shell pumps sees :=
    trayDesk_modal depth
  rw [same]
  have ends := runLoop_ends modal messages ⟨shellUp, false, rfl⟩
  constructor
  · intro seen observed
    exact wp_observes ends (soundWaits_of_awake rfl) observed
  · intro result after ran unfinished
    have ended := wp_runs ends ran
    rcases result with error | ended'
    · exact ended
    · apply ended
      cases ended' with
      | true => rfl
      | false => exact absurd rfl unfinished

/-- A session in which `TaskbarCreated` has this number. -/
def session : Shell := ⟨0xC123, by decide⟩

def retryAlarm : Message := { msg := wmTimer, wparam := trayRetryTimerId }

/-- The user has chosen the exit from the menu. -/
def exitClick : Message := { msg := wmCommand, wparam := idExit }

/-- The message is put at the end of the queue. -/
def TrayWorld.receive (world : TrayWorld) (message : Message) : TrayWorld :=
  { world with queue := world.queue ++ [message] }

/-- Every attempt fails until the window is ready; then the retry timer fires and the user
ends the program. -/
def lateIcon (call : TrayCall) (before : TrayWorld) : call.Answer × TrayWorld :=
  match call with
  | .shellTrayPresent | .waitForShellReady | .startupFlag | .createPopupMenu => (false, before)
  | .getModuleHandle | .loadAppIcon => (.ok (), before)
  | .createWindow => (.ok (), { before with alive := true })
  | .registerWindowMessage => (0xC123, { before with listens := 0xC123 })
  | .captureStatus => ({}, before)
  | .readTip => (before.szTip, before)
  | .storeTip szTip => ((), { before with szTip := szTip })
  | .notifyAdd => (before.shellUp && before.statusTimer, { before with
      icon := before.shellUp && before.statusTimer })
  | .notifyDelete => ((), { before with icon := false })
  | .storeTrayHwnd window => ((), { before with trayHwnd := window })
  | .iconAdded => (before.iconAdded, before)
  | .setIconAdded added => ((), { before with iconAdded := added })
  | .setTimer id _ => (before.alive, { before with
      retryTimer := before.retryTimer || (before.alive && decide (id = trayRetryTimerId))
      statusTimer := before.statusTimer || (before.alive && decide (id = trayStatusTimerId)) })
  | .killTimer id => ((), { before with
      retryTimer := before.retryTimer && decide (id ≠ trayRetryTimerId)
      statusTimer := before.statusTimer && decide (id ≠ trayStatusTimerId) })
  | .setLastError _ => ((), { before with timerFailed := true })
  | .onReady => ((), (before.receive retryAlarm).receive exitClick)
  | .getMessage => (before.queue.head?, { before with queue := before.queue.tail })
  | .pushPending command => ((), { before with
      pending := before.pending ++ [command]
      clicked := before.clicked ++ [command] })
  | .drainPending => (before.pending, { before with
      pending := [], inHand := before.inHand ++ before.pending })
  | .onCommand command => ((), before.handle command)
  | .windowDestroyed => ((), { before with alive := false, queue := [] })
  | .postQuitMessage => ((), { before with quit := true })
  | .registerClass | .notifyModify | .sleep _ | .defWindowProc | .trackPopupMenu _ => ((), before)

def lateIconCheck (call : TrayCall) (before : TrayWorld) : Bool :=
  match call with
  | .getMessage => !before.queue.isEmpty || before.quit
  | .onReady => before.alive
  | _ => true

theorem lateIcon_realizes (call : TrayCall) (before : TrayWorld)
    (check : lateIconCheck call before = true) :
    (trayDesk session 0).step call before (lateIcon call before).1 (lateIcon call before).2 := by
  cases call with
  | trackPopupMenu | onCommand => exact .refl
  | getMessage =>
      refine ⟨before, _, .refl, ?_, .refl⟩
      cases queue : before.queue with
      | nil =>
          have quit : before.quit = true := by simpa [lateIconCheck, queue] using check
          have same : (lateIcon .getMessage before).2 = before := by
            have empty : before.queue.tail = before.queue := by rw [queue, List.tail_nil]
            simp only [lateIcon, empty]
          rw [same]
          simp only [lateIcon, queue, List.head?_nil]
          exact ⟨quit, rfl⟩
      | cons message rest =>
          simp only [lateIcon, queue, List.head?_cons, List.tail_cons]
          exact ⟨[], rest, queue, rfl⟩
  | onReady =>
      have alarmed : Moves session before (before.receive retryAlarm) := .posted check (by decide)
      have ended : Moves session (before.receive retryAlarm)
          ((before.receive retryAlarm).receive exitClick) := .posted check (by decide)
      exact ⟨before, rfl, (ReflTransGen.single alarmed).tail ended⟩
  | notifyAdd =>
      refine ⟨_, ⟨before.shellUp && before.statusTimer, fun success => success, ?_, rfl⟩, .refl⟩
      exact fun success => (Bool.and_eq_true _ _ ▸ success).1
  | registerWindowMessage => exact ⟨_, ⟨.inr rfl, rfl⟩, .refl⟩
  | setTimer id interval => exact ⟨_, ⟨fun armed => armed, rfl⟩, .refl⟩
  | readTip | iconAdded | drainPending => exact ⟨_, ⟨rfl, rfl⟩, .refl⟩
  | createWindow =>
      refine ⟨_, rfl, ?_⟩
      simp only [lateIcon, Except.isOk, Except.toBool, Bool.or_true]
      exact .refl
  | _ => exact ⟨_, rfl, .refl⟩

def waitsWith (added : Bool) (call : TrayCall) (before : TrayWorld) : Bool :=
  match call with
  | .getMessage => before.iconAdded == added
  | _ => false

def lateWait (added : Bool) : Option TrayWorld :=
  (runLoop 3).run.stopAt lateIcon (waitsWith added) {}

def lateSeen (added : Bool) : TrayWorld := { (lateWait added).getD {} with waiting := true }

/-- The world after that run, from an ordinary session. -/
def lateEnd : TrayWorld := ((runLoop 3).run.exec lateIcon {}).2

set_option maxRecDepth 8000 in
theorem lateIcon_obeys : (runLoop 3).run.obeys lateIcon lateIconCheck {} = true := by
  decide +kernel

set_option maxRecDepth 8000 in
theorem lateSeen_observed (added : Bool) :
    (trayDesk session 0).Observes (runLoop 3).run {} (lateSeen added) := by
  have waits : (lateWait added).isSome = true := by
    cases added with
    | false => decide +kernel
    | true => decide +kernel
  have stops : lateWait added = some ((lateWait added).getD {}) := by
    cases found : lateWait added with
    | none =>
        rw [found] at waits
        cases waits
    | some here => rfl
  have stopped : (trayDesk session 0).Stops (fun call => call = .getMessage) (runLoop 3).run {}
      ((lateWait added).getD {}) := by
    apply stops_checked lateIcon_realizes lateIcon_obeys _ stops
    intro call here halts
    cases call with
    | getMessage => rfl
    | _ => cases halts
  apply stopped.torn
  rintro _ rfl
  exact ⟨_, .refl, rfl⟩

set_option maxRecDepth 8000 in
/-- Seven attempts fail and the tray waits; the retry timer brings the icon, and the exit in
the menu takes it away. -/
theorem icon_retried :
    (lateSeen false).Sound session ∧ (lateSeen false).icon = false ∧
      (lateSeen false).retryTimer = true ∧
    (lateSeen true).Sound session ∧ (lateSeen true).icon = true ∧
      (lateSeen true).retryTimer = false ∧
    LeftClean lateEnd ∧ lateEnd.handled = [.exit] := by
  have first : (lateSeen false).Sound session :=
    tray_kept.1 _ (lateSeen_observed false) rfl
  have second : (lateSeen true).Sound session :=
    tray_kept.1 _ (lateSeen_observed true) rfl
  have ended : ((runLoop 3).run.exec lateIcon {}).1 = .ok true := by decide +kernel
  have ran := runs_checked lateIcon_realizes lateIcon_obeys
  rw [ended] at ran
  have left : LeftClean lateEnd := tray_kept.2 _ _ ran (by nofun)
  exact ⟨first, by decide +kernel, by decide +kernel, second, by decide +kernel,
    by decide +kernel, left, by decide +kernel⟩

end LayoutAdblock.Tray
