import Mathlib.Logic.Relation
import LayoutAdblock.Interaction.Environment
import LayoutAdblock.Tray.Host

namespace LayoutAdblock.Tray

open Interaction Environment Relation

/-! # The shell and the message queue

Explorer can end and start again at any time, and any program can post messages to
the window.  A modal loop dispatches what is in the queue, and the procedure it
calls can open another one: the desk has a depth.
-/

/-- The number that `TaskbarCreated` has in this session. -/
structure Shell where
  taskbarCreated : Nat
  registered : 0xC000 ≤ taskbarCreated

/-- What the tray loop depends on: the shell with the icon and the timers, its window and
message queue, and what has become of the commands the user clicked. -/
structure TrayWorld where
  shellUp : Bool := true
  /-- The shell has ended since the program was started. -/
  shellEnded : Bool := false
  /-- The shell shows the icon. -/
  icon : Bool := false
  retryTimer : Bool := false
  statusTimer : Bool := false
  /-- `TRAY_HWND` is set. -/
  trayHwnd : Bool := false
  alive : Bool := false
  queue : List Message := []
  /-- `WM_QUIT` was posted. -/
  quit : Bool := false
  /-- What the window takes for `TaskbarCreated`; zero is nothing. -/
  listens : Nat := 0
  iconAdded : Bool := false
  szTip : List UInt16 := []
  pending : List TrayCommand := []
  /-- The user was told that the timer could not be set. -/
  timerFailed : Bool := false
  /-- Commands that arrived, that were taken from `pending`, and that were handled. -/
  clicked : List TrayCommand := []
  inHand : List TrayCommand := []
  handled : List TrayCommand := []
  /-- The thread waits for a message. -/
  waiting : Bool := false

variable (shell : Shell)

/-- What may happen by itself at any time. The shell ends and starts again, which it tells
the window about, and others post messages to the window. -/
inductive Moves : TrayWorld → TrayWorld → Prop where
  | shellEnds {world : TrayWorld} : Moves world { world with
      shellUp := false, icon := false, shellEnded := true }
  | shellStarts {world : TrayWorld} (down : world.shellUp = false) :
      Moves world { world with
        shellUp := true
        queue := if world.alive then world.queue ++ [{ msg := shell.taskbarCreated }]
          else world.queue }
  /-- Only `DestroyWindow` sends `WM_DESTROY`. -/
  | posted {world : TrayWorld} {message : Message} (alive : world.alive = true)
      (other : message.msg ≠ wmDestroy) :
      Moves world { world with queue := world.queue ++ [message] }

/-- What has happened by itself during a call. -/
abbrev Moved : TrayWorld → TrayWorld → Prop := ReflTransGen (Moves shell)

/-- What a call does that does not wait for messages. The icon can only be added while the
shell is up, and where the answer is that it was not, it may be there all the same. -/
def Settles (before : TrayWorld) : (call : TrayCall) → call.Answer → TrayWorld → Prop
  | .createWindow, created, settled =>
      settled = { before with alive := before.alive || created.isOk }
  | .registerWindowMessage, number, settled => (number = 0 ∨ number = shell.taskbarCreated) ∧
      settled = { before with listens := number }
  | .readTip, szTip, settled => szTip = before.szTip ∧ settled = before
  | .storeTip szTip, _, settled => settled = { before with szTip := szTip }
  | .notifyAdd, added, settled => ∃ icon, (added = true → icon = true) ∧
      (icon = true → before.shellUp = true) ∧ settled = { before with icon := icon }
  | .notifyDelete, _, settled => settled = { before with icon := false }
  | .storeTrayHwnd window, _, settled => settled = { before with trayHwnd := window }
  | .iconAdded, added, settled => added = before.iconAdded ∧ settled = before
  | .setIconAdded added, _, settled => settled = { before with iconAdded := added }
  | .setTimer id _, armed, settled => (armed = true → before.alive = true) ∧
      settled = { before with
        retryTimer := before.retryTimer || (armed && decide (id = trayRetryTimerId))
        statusTimer := before.statusTimer || (armed && decide (id = trayStatusTimerId)) }
  | .killTimer id, _, settled => settled = { before with
      retryTimer := before.retryTimer && decide (id ≠ trayRetryTimerId)
      statusTimer := before.statusTimer && decide (id ≠ trayStatusTimerId) }
  | .setLastError _, _, settled => settled = { before with timerFailed := true }
  | .getMessage, none, settled => before.quit = true ∧ settled = before
  | .getMessage, some message, settled => ∃ front back,
      before.queue = front ++ message :: back ∧
        settled = { before with queue := front ++ back }
  | .pushPending command, _, settled => settled = { before with
      pending := before.pending ++ [command]
      clicked := before.clicked ++ [command] }
  | .drainPending, commands, settled => commands = before.pending ∧
      settled = { before with pending := [], inHand := before.inHand ++ before.pending }
  | .windowDestroyed, _, settled => settled = { before with alive := false, queue := [] }
  | .postQuitMessage, _, settled => settled = { before with quit := true }
  | _, _, settled => settled = before

/-- The beginning of what is done about a command. -/
def TrayWorld.handle (world : TrayWorld) (command : TrayCommand) : TrayWorld :=
  { world with handled := world.handled ++ [command], inHand := world.inHand.tail }

/-- A desk, from what a modal loop may do and show. -/
def deskWith (pumps sees : TrayWorld → TrayWorld → Prop) :
    Environment TrayCall TrayCall.Answer TrayWorld where
  step
    | .trackPopupMenu _, before, _, after => pumps before after
    | .onCommand command, before, _, after => pumps (before.handle command) after
    | .getMessage, before, fetched, after => ∃ world settled, Moved shell before world ∧
        Settles shell world .getMessage fetched settled ∧ Moved shell settled after
    | call, before, answer, after => ∃ settled, Settles shell before call answer settled ∧
        Moved shell settled after
  torn
    | .getMessage, before, seen => ∃ world, Moved shell before world ∧
        seen = { world with waiting := true }
    | .trackPopupMenu _, before, seen => sees before seen
    | .onCommand command, before, seen => sees (before.handle command) seen
    | _, _, _ => False

section Nested

variable (nested : Environment TrayCall TrayCall.Answer TrayWorld)

/-- A message of the queue reaches the window, and the window procedure is run to its end. -/
def Dispatches (before after : TrayWorld) : Prop := ∃ message front back,
  before.queue = front ++ message :: back ∧
    nested.Runs (wndProc before.listens message) { before with queue := front ++ back } () after

/-- What happens while a menu is open, whose own loop delivers messages as well. -/
abbrev Pumps : TrayWorld → TrayWorld → Prop :=
  ReflTransGen fun before after => Moves shell before after ∨ Dispatches nested before after

/-- What is seen while a modal loop waits, or while a message it dispatched is handled. -/
def Sees (before seen : TrayWorld) : Prop := ∃ world, Pumps shell nested before world ∧
  (seen = { world with waiting := true } ∨ ∃ message front back,
    world.queue = front ++ message :: back ∧
      nested.Observes (wndProc world.listens message) { world with queue := front ++ back } seen)

end Nested

def trayDesk : Nat → Environment TrayCall TrayCall.Answer TrayWorld
  | 0 => deskWith shell (Moved shell) fun before seen => ∃ world, Moved shell before world ∧
      seen = { world with waiting := true }
  | depth + 1 => deskWith shell (Pumps shell (trayDesk depth)) (Sees shell (trayDesk depth))

end LayoutAdblock.Tray
