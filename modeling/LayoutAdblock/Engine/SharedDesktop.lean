import LayoutAdblock.Engine.Calls

namespace LayoutAdblock.Engine

open LayoutAdblock.Core Interaction Environment

/-! # The desktop that the engine shares with KakaoTalk

KakaoTalk shows, hides, creates and destroys its windows between any two calls
of the engine, and the flags, the hung status and everything else a call reads
may change as often.  The desktop records which windows the engine hid.
-/

/-- A window as others can change it at any time: whose it is, of which class, and whether
it is visible. -/
structure Window where
  pid : Pid
  className : String
  /-- The window's own `WS_VISIBLE`. -/
  visible : Bool
deriving DecidableEq, Repr

/-- Both handles name a live window of one process and class. -/
def sameWindow : Option Window → Option Window → Bool
  | some first, some second =>
      decide (first.pid = second.pid) && decide (first.className = second.className)
  | _, _ => false

/-- The desktop that the engine shares with KakaoTalk.  The last two fields
record what the engine did. -/
structure SharedDesktop where
  windows : Hwnd → Option Window
  caches : EngineCaches
  /-- The engine hid this window while its `WS_VISIBLE` was set, and has not
  seen one of its own shows succeed since. -/
  hidden : Hwnd → Bool
  /-- The window the engine's last call was a show of. -/
  shown : Option Hwnd

namespace SharedDesktop

/-- The windows change on their own; a record is about a window only as long
as it lives with its process and class. -/
def become (desktop : SharedDesktop) (windows : Hwnd → Option Window) : SharedDesktop :=
  { desktop with
    windows := windows
    hidden := fun hwnd =>
      desktop.hidden hwnd && sameWindow (desktop.windows hwnd) (windows hwnd) }

/-- What the calls that identify a window must answer. -/
def Answers (desktop : SharedDesktop) : (call : Call) → call.Answer → Prop
  | .isWindow hwnd, answer => answer = (desktop.windows hwnd).isSome
  | .getWindowThreadProcessId hwnd, answer =>
      ∀ window, desktop.windows hwnd = some window → answer = window.pid
  | .getClassName hwnd, answer =>
      ∀ window, desktop.windows hwnd = some window → answer = window.className
  | .hasVisibleStyle hwnd, answer => answer = (desktop.windows hwnd).any Window.visible
  | _, _ => True

/-- One window is shown or hidden; where there is none under the handle, nothing happens. -/
def setVisible (desktop : SharedDesktop) (hwnd : Hwnd) (visible : Bool) :
    Hwnd → Option Window :=
  fun other =>
    if other = hwnd then
      (desktop.windows other).map fun window => { window with visible := visible }
    else desktop.windows other

/-- The windows after a call that was obeyed or not. -/
def windowsAfter (desktop : SharedDesktop) (call : Call) (obeyed : Bool) :
    Hwnd → Option Window :=
  match call, obeyed with
  | .showWindow hwnd command, true => desktop.setVisible hwnd (decide (command = .show))
  | _, _ => desktop.windows

/-- Which windows the engine has hidden, after one more call. A hide adds a window that was
visible, and a look that finds a shown window visible takes it out. -/
def hiddenAfter (desktop : SharedDesktop) : (call : Call) → call.Answer → Hwnd → Bool
  | .showWindow hwnd .hide, _ => fun other =>
      desktop.hidden other ||
        (decide (other = hwnd) && (desktop.windows hwnd).any Window.visible)
  | .hasVisibleStyle hwnd, visible => fun other =>
      desktop.hidden other &&
        !(decide (other = hwnd) && decide (desktop.shown = some hwnd) && visible)
  | _, _ => desktop.hidden

def shownAfter : Call → Option Hwnd
  | .showWindow hwnd .show => some hwnd
  | _ => none

def called (desktop : SharedDesktop) (call : Call) (answer : call.Answer) (obeyed : Bool)
    (caches : EngineCaches) : SharedDesktop where
  windows := desktop.windowsAfter call obeyed
  caches := caches
  hidden := desktop.hiddenAfter call answer
  shown := shownAfter call

/-- The engine hid the window of this identity and owes it a show. -/
def HiddenAs (desktop : SharedDesktop) (identity : WindowIdentity) : Prop :=
  desktop.hidden identity.hwnd = true ∧ ∃ window, desktop.windows identity.hwnd = some window ∧
    window.pid = identity.pid ∧ window.className = identity.className

/-- Every window the engine hid has a snapshot that will show it again, for it was taken
while the window was visible. -/
def Covered (desktop : SharedDesktop) : Prop :=
  ∀ identity, desktop.HiddenAs identity →
    ∃ snap, desktop.caches.snapshots.lookup identity = some snap ∧ snap.wasVisible = true

end SharedDesktop

open SharedDesktop

/-- Each call takes effect, or is refused, and then KakaoTalk moves: it may show, hide,
create and destroy any of its windows. -/
def sharedDesktop : Environment Call Call.Answer SharedDesktop where
  step call before answer after :=
    before.Answers call answer ∧ ∃ obeyed caches windows,
      CachesStep before.caches caches call answer ∧
        after = (before.called call answer obeyed caches).become windows

theorem sameWindow_some {first : Option Window} {second : Window}
    (same : sameWindow first (some second) = true) :
    ∃ window, first = some window ∧ window.pid = second.pid ∧
      window.className = second.className := by
  cases first with
  | none => contradiction
  | some window =>
      simp only [sameWindow, Bool.and_eq_true, decide_eq_true_eq] at same
      exact ⟨window, rfl, same⟩

theorem SharedDesktop.HiddenAs.of_become {desktop : SharedDesktop} {windows : Hwnd → Option Window}
    {identity : WindowIdentity} (hidden : (desktop.become windows).HiddenAs identity) :
    desktop.HiddenAs identity := by
  obtain ⟨recorded, window, found, samePid, sameClass⟩ := hidden
  simp only [become, Bool.and_eq_true] at recorded found
  rw [found] at recorded
  obtain ⟨earlier, foundEarlier, pid, className⟩ := sameWindow_some recorded.2
  exact ⟨recorded.1, earlier, foundEarlier, pid.trans samePid, className.trans sameClass⟩

/-- A call keeps the process and class of every window. -/
theorem windowsAfter_some {desktop : SharedDesktop} {call : Call} {obeyed : Bool} {hwnd : Hwnd}
    {window : Window} (found : desktop.windowsAfter call obeyed hwnd = some window) :
    ∃ earlier, desktop.windows hwnd = some earlier ∧ earlier.pid = window.pid ∧
      earlier.className = window.className := by
  unfold windowsAfter at found
  split at found
  · unfold setVisible at found
    split at found
    · obtain ⟨earlier, foundEarlier, rfl⟩ := Option.map_eq_some_iff.mp found
      exact ⟨earlier, foundEarlier, rfl, rfl⟩
    · exact ⟨window, found, rfl, rfl⟩
  · exact ⟨window, found, rfl, rfl⟩

/-- Only a hide of a visible window adds to the record. -/
theorem SharedDesktop.HiddenAs.of_step {call : Call} {before after : SharedDesktop}
    {answer : call.Answer} {identity : WindowIdentity}
    (step : sharedDesktop.step call before answer after)
    (hidden : after.HiddenAs identity) :
    before.HiddenAs identity ∨
      (call = .showWindow identity.hwnd .hide ∧
        ∃ window, before.windows identity.hwnd = some window ∧ window.visible = true ∧
          window.pid = identity.pid ∧ window.className = identity.className) := by
  obtain ⟨_, obeyed, caches, windows, _, rfl⟩ := step
  obtain ⟨recorded, window, found, samePid, sameClass⟩ := hidden.of_become
  obtain ⟨earlier, foundEarlier, pid, className⟩ := windowsAfter_some found
  have live : ∃ window, before.windows identity.hwnd = some window ∧
      window.pid = identity.pid ∧ window.className = identity.className :=
    ⟨earlier, foundEarlier, pid.trans samePid, className.trans sameClass⟩
  simp only [called, hiddenAfter] at recorded
  split at recorded
  · rename_i hwnd _
    simp only [Bool.or_eq_true, Bool.and_eq_true, decide_eq_true_eq] at recorded
    cases recorded with
    | inl already => exact Or.inl ⟨already, live⟩
    | inr own =>
        obtain ⟨rfl, visible⟩ := own
        rw [foundEarlier] at visible
        exact Or.inr ⟨rfl, earlier, foundEarlier, visible, pid.trans samePid,
          className.trans sameClass⟩
  · simp only [Bool.and_eq_true] at recorded
    exact Or.inl ⟨recorded.1, live⟩
  · exact Or.inl ⟨recorded, live⟩

theorem step_caches {call : Call} {before after : SharedDesktop} {answer : call.Answer}
    (step : sharedDesktop.step call before answer after) :
    CachesStep before.caches after.caches call answer := by
  obtain ⟨_, obeyed, caches, windows, stepped, rfl⟩ := step
  exact stepped

/-- Snapshots are stored under the identity they were taken of. -/
def Keyed (snapshots : Snapshots) : Prop :=
  ∀ identity snap, snapshots.lookup identity = some snap → snap.identity = identity

theorem Keyed.insert {snapshots : Snapshots} (keyed : Keyed snapshots) (snap : RestoreSnapshot) :
    Keyed (snapshots.insert snap.identity snap) := by
  intro identity found looked
  by_cases same : identity = snap.identity
  · subst same
    rw [AList.lookup_insert] at looked
    rw [← Option.some.inj looked]
  · rw [AList.lookup_insert_ne same] at looked
    exact keyed identity found looked

theorem Keyed.erase {snapshots : Snapshots} (keyed : Keyed snapshots)
    (identity : WindowIdentity) : Keyed (snapshots.erase identity) := by
  intro other found looked
  by_cases same : other = identity
  · subst same
    simp at looked
  · rw [AList.lookup_erase_ne same] at looked
    exact keyed other found looked

theorem pairs_lookup {snapshots : Snapshots} {identity : WindowIdentity}
    {snap : RestoreSnapshot} :
    (identity, snap) ∈ snapshots.pairs ↔ snapshots.lookup identity = some snap := by
  rw [← Option.mem_def, AList.mem_lookup_iff]
  simp only [Snapshots.pairs, List.mem_map, Prod.mk.injEq]
  constructor
  · intro found
    obtain ⟨entry, member, rfl, rfl⟩ := found
    exact member
  · intro member
    exact ⟨_, member, rfl, rfl⟩

theorem pairs_keys (snapshots : Snapshots) : (snapshots.pairs.map Prod.fst).Nodup := by
  have same : snapshots.pairs.map Prod.fst = snapshots.entries.keys := by
    simp [Snapshots.pairs, List.keys, Function.comp_def]
  rw [same]
  exact snapshots.nodupKeys

abbrev NoHide (call : Call) : Prop := ∀ hwnd, call ≠ .showWindow hwnd .hide

/-- The call hides no window and writes no caches. -/
structure Spares (call : Call) : Prop where
  off : OffCaches call
  noHide : NoHide call

theorem Reads.noHide {call : Call} (reads : Reads call) : NoHide call := by
  rintro hwnd rfl
  cases reads

theorem Reads.spares {call : Call} (reads : Reads call) : Spares call :=
  ⟨reads.offCaches, reads.noHide⟩

theorem noHide_of_stays {call : Call} (stays : Stays call) : NoHide call := by
  rintro hwnd rfl
  cases stays

theorem CloseCall.spares {hwnd : Hwnd} {call : Call} (closes : CloseCall hwnd call) :
    Spares call :=
  ⟨closes.off, noHide_of_stays closes.stays⟩

theorem RestoreCall.spares {hwnd : Hwnd} {call : Call} (restores : RestoreCall hwnd call) :
    Spares call := by
  refine ⟨restores.offCaches, fun other same => ?_⟩
  subst same
  cases restores

theorem spares_ask {call : Call} (off : OffCaches call) (stays : Stays call) :
    (ask call).Only Spares :=
  Program.only_ask.mpr ⟨off, noHide_of_stays stays⟩

theorem modifySnapshots_noHide (change : Snapshots → Snapshots) :
    (modifySnapshots change).Only NoHide :=
  (Program.only_ask.mpr fun _ same => (nomatch same)).bind fun _ =>
    Program.only_ask.mpr fun _ same => (nomatch same)

/-- A step that hides nothing adds nothing to the record. -/
theorem SharedDesktop.HiddenAs.of_noHide {call : Call} {before after : SharedDesktop}
    {answer : call.Answer} {identity : WindowIdentity} (noHide : NoHide call)
    (step : sharedDesktop.step call before answer after) (hidden : after.HiddenAs identity) :
    before.HiddenAs identity := by
  cases SharedDesktop.HiddenAs.of_step step hidden with
  | inl already => exact already
  | inr hides => exact absurd hides.1 (noHide _)

/-- New caches, and nothing hidden by the engine. -/
def SharedDesktop.Fresh (desktop : SharedDesktop) : Prop :=
  desktop.caches = {} ∧ ∀ hwnd, desktop.hidden hwnd = false

/-- One popup host of process 5 with the legacy title. -/
def popupAnswer (desktop : SharedDesktop) : (call : Call) → call.Answer
  | .enumWindows => [(1 : Int)]
  | .enumDescendantWindows _ => []
  | .getWindowThreadProcessId hwnd => ((desktop.windows hwnd).map Window.pid).getD 0
  | .getClassName hwnd => ((desktop.windows hwnd).map Window.className).getD ""
  | .getWindowTextResult _ => .known "Chrome Legacy Window"
  | .getParent _ => (0 : Int)
  | .getWindowRect _ => some ⟨0, 0, 300, 200⟩
  | .isWindow hwnd => (desktop.windows hwnd).isSome
  | .isWindowVisible hwnd | .hasVisibleStyle hwnd => (desktop.windows hwnd).any Window.visible
  | .isHungAppWindow _ => false
  | .showWindow _ _ | .setWindowPos _ _ _ _ _ _ => true
  | .sendMessageTimeout _ _ _ _ _ => (true, 1)
  | .load flag => decide (flag ≠ .stopping)
  | .now => (0 : Nat)
  | .note _ => ()
  | .readCaches => desktop.caches
  | .writeCaches _ => ()
  | .iterateSnapshots => desktop.caches.snapshots.pairs

theorem popupAnswer_answers (desktop : SharedDesktop) (call : Call) :
    desktop.Answers call (popupAnswer desktop call) := by
  cases call with
  | isWindow hwnd => rfl
  | hasVisibleStyle hwnd => rfl
  | getWindowThreadProcessId hwnd =>
      intro window found
      simp [popupAnswer, found]
  | getClassName hwnd =>
      intro window found
      simp [popupAnswer, found]
  | _ => trivial

/-- Every call is obeyed.  When `shows` is set, KakaoTalk shows its window at
the end of the tick. -/
def popupHandler (shows : Bool) (call : Call) (desktop : SharedDesktop) :
    call.Answer × SharedDesktop :=
  let caches := match call with
    | .writeCaches caches => caches
    | _ => desktop.caches
  let after := desktop.called call (popupAnswer desktop call) true caches
  let windows := match call, shows with
    | .note (.restoreFailures _ _), true => after.setVisible 1 true
    | _, _ => after.windows
  (popupAnswer desktop call, after.become windows)

def popupDesktop : SharedDesktop where
  windows := fun hwnd =>
    if hwnd = 1 then some { pid := 5, className := "EVA_Window", visible := false } else none
  caches := {}
  hidden := fun _ => false
  shown := none

theorem popupHandler_realizes (shows : Bool) (call : Call) (desktop : SharedDesktop) :
    sharedDesktop.step call desktop (popupHandler shows call desktop).1
      (popupHandler shows call desktop).2 := by
  refine ⟨popupAnswer_answers desktop call, true, _, _, ?_, rfl⟩
  cases call with
  | readCaches => exact ⟨rfl, rfl⟩
  | iterateSnapshots => exact ⟨List.Perm.refl _, rfl⟩
  | _ => rfl

def visiblePopup : SharedDesktop :=
  { popupDesktop with
    windows := fun hwnd =>
      if hwnd = 1 then some { pid := 5, className := "EVA_Window", visible := true }
      else none }

end LayoutAdblock.Engine
