import LayoutAdblock.Interaction.Fallible
import LayoutAdblock.Tray.StatusText

namespace LayoutAdblock.Tray

open Interaction Interaction.Fallible

/-! # The tray window

Its window procedure and the loop that feeds it.  A menu and a message box have
message loops of their own, so the procedure can run while a command is handled;
what it shares with the loop is therefore behind calls.
-/

/-- What the menu of the tray offers. -/
inductive TrayCommand where
  | toggleEnabled
  | toggleAggressive
  | toggleStartup
  | resetRestoreFailures
  | openLogs
  | openReleases
  | checkUpdate
  | exit
deriving DecidableEq, Repr

/-- The numbers of the menu entries, by which `WM_COMMAND` says which one was clicked. -/
def idToggleEnabled : Nat := 1001

def idToggleAggressive : Nat := 1002

def idToggleStartup : Nat := 1003

def idResetRestore : Nat := 1004

def idOpenLogs : Nat := 1005

def idOpenReleases : Nat := 1006

def idCheckUpdate : Nat := 1007

def idExit : Nat := 1008

/-- The command of a menu entry. Other numbers belong to nobody. -/
def TrayCommand.fromId (id : Nat) : Option TrayCommand :=
  if id = idToggleEnabled then some .toggleEnabled
  else if id = idToggleAggressive then some .toggleAggressive
  else if id = idToggleStartup then some .toggleStartup
  else if id = idResetRestore then some .resetRestoreFailures
  else if id = idOpenLogs then some .openLogs
  else if id = idOpenReleases then some .openReleases
  else if id = idCheckUpdate then some .checkUpdate
  else if id = idExit then some .exit
  else none

/-- The window messages the procedure looks at, under the numbers of Windows. -/
def wmDestroy : Nat := 0x0002

def wmClose : Nat := 0x0010

def wmContextmenu : Nat := 0x007B

def wmCommand : Nat := 0x0111

def wmTimer : Nat := 0x0113

def wmRbuttonup : Nat := 0x0205

def wmTray : Nat := 0x8001

/-- The timer that tries to put the icon back. -/
def trayRetryTimerId : Nat := 1

/-- The timer that keeps the tooltip up to date. -/
def trayStatusTimerId : Nat := 2

def trayStatusIntervalMs : Nat := 1000

def retryIntervalMs : Nat := 2000

/-- How long the start waits between its attempts to add the icon, in milliseconds. -/
def notifyIconRetryDelays : List Nat := [100, 250, 500, 1000, 2000, 4000]

/-- A window message with its two parameters, as it stands in the queue. -/
structure Message where
  msg : Nat
  wparam : Nat := 0
  lparam : Nat := 0
deriving DecidableEq, Repr

/-- An entry of the menu, as it is built each time the menu is opened. An entry without a
command has number zero. -/
structure MenuItem where
  id : Nat
  text : String
  checked : Bool := false
  enabled : Bool := true
deriving DecidableEq, Repr

/-- What the tray host asks of Windows and of the state it shares with the worker. Only
calls whose result the code looks at have one here. -/
inductive TrayCall where
  | shellTrayPresent
  /-- Its result is dropped. -/
  | waitForShellReady
  | getModuleHandle
  | loadAppIcon
  | registerClass
  | createWindow
  /-- The number of `TaskbarCreated`. -/
  | registerWindowMessage
  | captureStatus
  | startupFlag
  | readTip
  | storeTip (szTip : List UInt16)
  | notifyAdd
  | notifyDelete
  | notifyModify
  | sleep (milliseconds : Nat)
  | storeTrayHwnd (window : Bool)
  | iconAdded
  | setIconAdded (added : Bool)
  | setTimer (id interval : Nat)
  | killTimer (id : Nat)
  | setLastError (text : String)
  | onReady
  | getMessage
  | defWindowProc
  | pushPending (command : TrayCommand)
  | drainPending
  | createPopupMenu
  | trackPopupMenu (items : List (Option MenuItem))
  | onCommand (command : TrayCommand)
  /-- What is left of `DestroyWindow` after `WM_DESTROY`. -/
  | windowDestroyed
  | postQuitMessage

/-- What these calls answer. An icon that could not be added and a timer that could not be
set are answers like any other. -/
@[reducible] def TrayCall.Answer : TrayCall → Type
  | .shellTrayPresent | .waitForShellReady | .startupFlag | .notifyAdd | .iconAdded
  | .setTimer _ _ | .createPopupMenu => Bool
  | .getModuleHandle | .loadAppIcon | .createWindow => Except String Unit
  | .registerWindowMessage => Nat
  | .captureStatus => StatusSnapshot
  | .readTip => List UInt16
  | .getMessage => Option Message
  | .drainPending => List TrayCommand
  | _ => Unit

/-- A part of the tray host, which goes on whatever it is answered. -/
abbrev TrayM := Program TrayCall TrayCall.Answer

/-- A part that may give up, with the text of the error it shows. -/
abbrev TrayE := Fallible TrayCall TrayCall.Answer String

def tray (call : TrayCall) : TrayM call.Answer := Program.ask call

def retryTimerFailed : String := "트레이 복구 타이머 실패: --exit로 종료 후 다시 실행하세요."

/-- Whether the icon is there decides about the retry timer. It is set while the icon is
missing; where that fails too, the user is told how to get out. -/
def reconcileRegistration (added : Bool) : TrayM Unit := do
  tray (.setIconAdded added)
  if added then tray (.killTimer trayRetryTimerId)
  else
    let armed ← tray (.setTimer trayRetryTimerId retryIntervalMs)
    if armed then return () else tray (.setLastError retryTimerFailed)

/-- The tooltip is written again only where its text would be another one, and only while
the icon counts as added. -/
def refreshTooltip : TrayM Unit := do
  let added ← tray .iconAdded
  if !added then return ()
  else
    let snapshot ← tray .captureStatus
    let szTip ← tray .readTip
    if tipMatches szTip (statusTooltip snapshot) then return ()
    else
      tray (.storeTip (writeTip (statusTooltip snapshot)))
      tray .notifyModify

def menuItems (snapshot : StatusSnapshot) (startup : Bool) : List (Option MenuItem) :=
  (statusMenuLines snapshot).map (fun line => some { id := 0, text := line, enabled := false }) ++
    [none,
      some { id := idToggleEnabled, text := if snapshot.enabled then "차단 끄기" else "차단 켜기" },
      some { id := idToggleAggressive, text := "공격 모드", checked := snapshot.aggressive },
      some { id := idToggleStartup, text := "시작프로그램 등록", checked := startup },
      some {
        id := idResetRestore
        text := "복원 실패 초기화"
        enabled := decide (0 < snapshot.restoreFailures) || !snapshot.lastError.isEmpty },
      none,
      some { id := idOpenLogs, text := "로그 폴더 열기" },
      some { id := idOpenReleases, text := "GitHub 릴리스 열기" },
      some { id := idCheckUpdate, text := "업데이트 확인" },
      none,
      some { id := idExit, text := "종료" }]

/-- The menu is built from the state of that moment. Where Windows has no menu for it,
nothing is shown. -/
def showMenu : TrayM Unit := do
  let created ← tray .createPopupMenu
  if !created then return ()
  else
    let snapshot ← tray .captureStatus
    let startup ← tray .startupFlag
    tray (.trackPopupMenu (menuItems snapshot startup))

/-- The icon and both timers are taken away before the loop is told to quit. -/
def onDestroy : TrayM Unit := do
  tray (.storeTrayHwnd false)
  tray (.killTimer trayRetryTimerId)
  tray (.killTimer trayStatusTimerId)
  tray .notifyDelete
  tray .postQuitMessage

/-- `DestroyWindow`, which sends `WM_DESTROY` first. -/
def destroyWindow : TrayM Unit := do
  onDestroy
  tray .windowDestroyed

/-- The retry timer tries the icon again, and stops where it is known to be there. The
status timer refreshes the tooltip; no other timer is set. -/
def onTimer (id : Nat) : TrayM Unit :=
  if id = trayRetryTimerId then do
    let known ← tray .iconAdded
    if known then return ()
    else
      let added ← tray .notifyAdd
      reconcileRegistration added
  else if id = trayStatusTimerId then refreshTooltip
  else return ()

/-- The shell has started again and has lost every icon. Whatever is left of the old one is
deleted before it is added again. -/
def onTaskbarCreated : TrayM Unit := do
  tray .notifyDelete
  let added ← tray .notifyAdd
  reconcileRegistration added

/-- `DefWindowProcW`, which destroys the window on `WM_CLOSE` and does nothing with the
other messages that come here. -/
def defWindowProc (message : Message) : TrayM Unit :=
  if message.msg = wmClose then destroyWindow else tray .defWindowProc

/-- The window procedure. A click on the menu puts its command into the queue, and the exit
destroys the window as well; a message that it does not know is left to Windows. -/
def wndProc (taskbarCreated : Nat) (message : Message) : TrayM Unit :=
  if message.msg = wmTray then
    let event := message.lparam % 2 ^ 32
    if event = wmRbuttonup || event = wmContextmenu then showMenu else return ()
  else if message.msg = wmCommand then
    match TrayCommand.fromId (message.wparam % 2 ^ 16) with
    | none => return ()
    | some command => do
        tray (.pushPending command)
        if command = .exit then destroyWindow else return ()
  else if message.msg = wmDestroy then onDestroy
  else if message.msg = wmTimer then onTimer message.wparam
  else if message.msg = taskbarCreated && message.msg ≠ 0 then onTaskbarCreated
  else defWindowProc message

/-- The attempts that follow a first one that failed. -/
def retryAdd : List Nat → TrayM Bool
  | [] => return false
  | delay :: rest => do
      tray .notifyDelete
      tray (.sleep delay)
      let added ← tray .notifyAdd
      if added then return true else retryAdd rest

/-- The icon is added at the start, with some more attempts while the shell is still coming
up. -/
def addIcon : TrayM Bool := do
  let added ← tray .notifyAdd
  if added then return true else retryAdd notifyIconRetryDelays

/-- For a number of messages that is large enough or not; whether the loop has ended. -/
def messageLoop (taskbarCreated : Nat) : Nat → TrayM Bool
  | 0 => return false
  | messages + 1 => do
      let message ← tray .getMessage
      match message with
      | none => return true
      | some message => do
          wndProc taskbarCreated message
          let commands ← tray .drainPending
          Program.forEach (fun command => tray (.onCommand command)) commands
          messageLoop taskbarCreated messages

/-- The start waits for the shell where it is not there, and goes on after a while in any
case. -/
def waitForShell : TrayM Unit := do
  let present ← tray .shellTrayPresent
  if present then return ()
  else
    let _ ← tray .waitForShellReady
    return ()

/-- From the window to the first message; the number of `TaskbarCreated`. An icon that
cannot be added yet has a timer set for it. -/
def openTray : TrayM Nat := do
  let snapshot ← tray .captureStatus
  tray (.storeTip (writeTip (statusTooltip snapshot)))
  let taskbarCreated ← tray .registerWindowMessage
  let added ← addIcon
  tray (.storeTrayHwnd true)
  reconcileRegistration added
  let _ ← tray (.setTimer trayStatusTimerId trayStatusIntervalMs)
  tray .onReady
  return taskbarCreated

/-- What is left to do once the loop has ended: no window can be told to exit any more, and
the icon is deleted once more. -/
def closeTray : TrayM Unit := do
  tray (.storeTrayHwnd false)
  tray .notifyDelete

/-- `run_loop_inner`, for a number of messages.  The loop goes on without an icon, so the
only errors are those of the window. -/
def runLoop (messages : Nat) : TrayE Bool := do
  always waitForShell
  attempt (tray .getModuleHandle)
  attempt (tray .loadAppIcon)
  always (tray .registerClass)
  attempt (tray .createWindow)
  let taskbarCreated ← always openTray
  let ended ← always (messageLoop taskbarCreated messages)
  if ended then
    always closeTray
    return true
  else return false

end LayoutAdblock.Tray
