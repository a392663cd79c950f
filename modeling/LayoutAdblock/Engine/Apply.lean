import LayoutAdblock.Engine.Model

namespace LayoutAdblock.Engine

open LayoutAdblock.Core Interaction

/-- How a window looks before it is touched. The flag of visibility and the rectangle are
read from Windows, not from the graph, which may be older; the rectangle of the graph only
stands in where none can be read. -/
def captureSnapshot (graph : WindowGraph) (hwnd : Hwnd) : EngineM (Option RestoreSnapshot) :=
  match graph.get hwnd with
  | none => return none
  | some node => do
      let wasVisible ← ask (.hasVisibleStyle hwnd)
      let rect ← ask (.getWindowRect hwnd)
      return some
        { identity := node.identity
          wasVisible := wasVisible
          rect := rect.or node.rect
          topLevel := node.structuralParent.isNone }

/-- Keep the first snapshot of a window. A window that is hidden already would make a wrong
one, so the first is never replaced. -/
def rememberSnapshot (graph : WindowGraph) (hwnd : Hwnd) : EngineM Unit :=
  match graph.get hwnd with
  | none => return ()
  | some node => do
      let caches ← ask .readCaches
      if node.identity ∈ caches.snapshots then return ()
      else
        let captured ← captureSnapshot graph hwnd
        match captured with
        | none => return ()
        | some snap => modifySnapshots fun snapshots => snapshots.insert snap.identity snap

/-- The handle still belongs to the window that was seen: it is a window, of the same
process and of the same class, asked in this order. -/
def identityMatches (identity : WindowIdentity) : EngineM Bool := do
  let alive ← ask (.isWindow identity.hwnd)
  if !alive then return false
  else
    let pid ← ask (.getWindowThreadProcessId identity.hwnd)
    if pid ≠ identity.pid then return false
    else
      let className ← ask (.getClassName identity.hwnd)
      return decide (className = identity.className)

/-- Not stopping, enabled and applying, read in this order. A flag that forbids it keeps the
others from being read. -/
def flagsAllow : EngineM Bool := do
  let stopping ← ask (.load .stopping)
  if stopping then return false
  else
    let enabled ← ask (.load .enabled)
    if !enabled then return false
    else
      let apply ← ask (.load .apply)
      return apply

/-- The guard of every mutation of `apply_evaluation`: the flags allow it, the window is in
the graph and of KakaoTalk, it is still the one that was seen, and it does not hang. -/
def precheck (graph : WindowGraph) (pids : List Pid) (hwnd : Hwnd) : EngineM Bool := do
  let allowed ← flagsAllow
  if !allowed then return false
  else
    match graph.get hwnd with
    | none => return false
    | some node =>
        if !pids.contains node.pid then return false
        else
          let same ← identityMatches node.identity
          if !same then return false
          else
            let hung ← ask (.isHungAppWindow hwnd)
            return !hung

/-- `if !precheck(hwnd) { continue; }` and the rest of a loop body. A window that fails it
is skipped, and the loop goes on. -/
def prechecked (graph : WindowGraph) (pids : List Pid) (hwnd : Hwnd) (body : EngineM Unit) :
    EngineM Unit := do
  let checked ← precheck graph pids hwnd
  if checked then body else return ()

/-- The entries of `setPos` that are no main-view resize, because width or height is not
positive. -/
def zeroSizes (pos : List Int) : Bool :=
  5 ≤ pos.length && (pos.getD 3 0 ≤ 0 || pos.getD 4 0 ≤ 0)

/-- The windows a snapshot is taken of before anything is done, which are those that will be
hidden or made zero-sized. -/
def captureTargets (evaluation : Evaluation) : List Hwnd :=
  evaluation.actions.hide ++
    (evaluation.actions.setPos.filter zeroSizes).map fun pos => pos.getD 0 0

/-- The snapshot of one of them, unless it is no longer the window that was seen. -/
def captureWindow (graph : WindowGraph) (pids : List Pid) (hwnd : Hwnd) : EngineM Unit :=
  prechecked graph pids hwnd (rememberSnapshot graph hwnd)

/-- A visible window is hidden and counted, where Windows says that it did it. -/
def hideVisible (hwnd : Hwnd) : EngineM Unit := do
  let visible ← ask (.hasVisibleStyle hwnd)
  if !visible then return ()
  else
    let hidden ← ask (.showWindow hwnd .hide)
    if hidden then ask (.note .hiddenWindow) else return ()

/-- One window of the evaluation is hidden, unless it is no longer the window that was seen. -/
def hideWindow (graph : WindowGraph) (pids : List Pid) (hwnd : Hwnd) : EngineM Unit :=
  prechecked graph pids hwnd (hideVisible hwnd)

/-- Child positions are parent-relative but snapshots hold screen rects: a
child and a resized view keep their offset. -/
def swpFlags (graph : WindowGraph) (hwnd : Hwnd) (isViewResize : Bool) : List SwpFlag :=
  if isViewResize || (graph.get hwnd).any (fun node => node.structuralParent.isSome) then
    [.noZOrder, .noActivate, .noMove]
  else
    [.noZOrder, .noActivate]

def zeroInGraph (graph : WindowGraph) (hwnd : Hwnd) : Bool :=
  ((graph.get hwnd).bind WindowNode.rect).any fun rect => rect.width == 0 && rect.height == 0

/-- Only the resize of a view is counted; a window that is made zero-sized is not. -/
def resizeWindow (graph : WindowGraph) (hwnd : Hwnd) (pos : List Int) (isViewResize : Bool) :
    EngineM Unit := do
  let applied ← ask (.setWindowPos hwnd (wrapI32 (pos.getD 1 0)) (wrapI32 (pos.getD 2 0))
    (wrapI32 (pos.getD 3 0)) (wrapI32 (pos.getD 4 0)) (swpFlags graph hwnd isViewResize))
  if applied && isViewResize then ask (.note .resizedWindow) else return ()

/-- A positive size is that of a view. Any other hides a popup, which is remembered first
and left alone where it has no size already. -/
def positionChecked (graph : WindowGraph) (hwnd : Hwnd) (pos : List Int) : EngineM Unit :=
  if 0 < pos.getD 3 0 && 0 < pos.getD 4 0 then resizeWindow graph hwnd pos true
  else if zeroInGraph graph hwnd then return ()
  else do
    rememberSnapshot graph hwnd
    resizeWindow graph hwnd pos false

/-- One position of the evaluation. An entry that is too short is skipped. -/
def positionWindow (graph : WindowGraph) (pids : List Pid) (pos : List Int) : EngineM Unit :=
  if pos.length < 5 then return ()
  else prechecked graph pids (pos.getD 0 0) (positionChecked graph (pos.getD 0 0) pos)

/-- Whole milliseconds until the deadline, as a `u32`. -/
def remainingMs (deadline instant : Instant) : Nat :=
  (deadline - instant) / 1000000 % (u32Max + 1)

/-- The window is asked to close and given a little time for it. Whether it has, only its
handle says afterwards. -/
def requestClose (hwnd : Hwnd) (timeoutMs : Nat) : EngineM Unit := do
  let _ ← ask (.sendMessageTimeout hwnd wmClose 0 0 timeoutMs)
  let alive ← ask (.isWindow hwnd)
  if !alive then ask (.note .closedWindow) else return ()

/-- The windows are asked to close one after the other, until the time for all of them is
used up. A window that is no longer the one that was seen costs no time. -/
def closeWindows (graph : WindowGraph) (pids : List Pid) (deadline : Instant) :
    List Hwnd → EngineM Unit
  | [] => return ()
  | hwnd :: rest => do
      let checked ← precheck graph pids hwnd
      if !checked then closeWindows graph pids deadline rest
      else
        let instant ← ask .now
        let remaining := remainingMs deadline instant
        if remaining = 0 then return ()
        else
          requestClose hwnd (min remaining 50)
          closeWindows graph pids deadline rest

/-- `snapshots.retain(|identity, _| identity_matches(api, identity))`. A window that a close
has destroyed has nothing to be put back. -/
def retainMatching : EngineM Unit := do
  let entries ← ask .iterateSnapshots
  Program.forEach (fun entry => do
    let same ← identityMatches entry.1
    if same then return ()
    else modifySnapshots fun snapshots => snapshots.erase entry.1) entries

/-- What the evaluation wants is done, in four rounds: snapshots, hiding, positions,
closing. The flags are looked at before the first of them. -/
def applyEvaluation (graph : WindowGraph) (evaluation : Evaluation) (pids : List Pid) :
    EngineM Unit := do
  let allowed ← flagsAllow
  if !allowed then return ()
  else
    Program.forEach (captureWindow graph pids) (captureTargets evaluation)
    Program.forEach (hideWindow graph pids) evaluation.actions.hide
    Program.forEach (positionWindow graph pids) evaluation.actions.setPos
    let started ← ask .now
    closeWindows graph pids (started + 100000000) evaluation.actions.close
    if evaluation.actions.close.isEmpty then return () else retainMatching

end LayoutAdblock.Engine
