import LayoutAdblock.Engine.Model

namespace LayoutAdblock.Engine

open LayoutAdblock.Core Interaction

/-- The windows of the enumeration whose process is wanted, with their
processes. -/
def topLevelWindows (pids : List Pid) : List Hwnd → EngineM (List (Hwnd × Pid))
  | [] => return []
  | hwnd :: rest => do
      let pid ← ask (.getWindowThreadProcessId hwnd)
      let others ← topLevelWindows pids rest
      return if pids.contains pid then (hwnd, pid) :: others else others

/-- The descendants of one enumeration with their parents, in order. -/
def childPairs : List Hwnd → EngineM (List (Hwnd × Hwnd))
  | [] => return []
  | child :: rest => do
      let parent ← ask (.getParent child)
      let others ← childPairs rest
      return (parent, child) :: others

/-- Direct children of every window under `top`, from a single enumeration. A parent outside
the enumeration is kept as well, for it is asked for by its handle. -/
def childMap (top : Hwnd) : EngineM (List (Hwnd × Hwnd)) := do
  let descendants ← ask (.enumDescendantWindows top)
  childPairs descendants

/-- The children of a window among the pairs, in the order they were found. -/
def childrenOf (pairs : List (Hwnd × Hwnd)) (parent : Hwnd) : List Hwnd :=
  (pairs.filter fun pair => decide (pair.1 = parent)).map Prod.snd

/-- What `load_tree` fills in. -/
structure Loading where
  graph : WindowGraph
  visited : List Hwnd

/-- The properties of one window, read one after the other, while the window may change or
vanish between any two of them. -/
def readNode (hwnd : Hwnd) (structuralParent : Option Hwnd) (pid : Pid) : EngineM WindowNode := do
  let className ← ask (.getClassName hwnd)
  let title ← ask (.getWindowTextResult hwnd)
  let win32Parent ← ask (.getParent hwnd)
  let rect ← ask (.getWindowRect hwnd)
  let visible ← ask (.isWindowVisible hwnd)
  return {
    hwnd := hwnd
    pid := pid
    className := className
    title := title
    structuralParent := structuralParent
    owner := if structuralParent.isNone && win32Parent ≠ 0 then some win32Parent else none
    rect := rect
    visible := visible }

/-- The tree below one window.  Each level of the recursion visits a window
that was not visited before, so the fuel is the number of windows that can be
visited. -/
def loadTree (pairs : List (Hwnd × Hwnd)) (pid : Pid) :
    Nat → Option Hwnd → Hwnd → Loading → EngineM Loading
  | 0, _, _, loading => return loading
  | fuel + 1, structuralParent, hwnd, loading =>
      if loading.visited.contains hwnd then return loading
      else do
        let opened : Loading := { loading with visited := hwnd :: loading.visited }
        let alive ← ask (.isWindow hwnd)
        if !alive then return opened
        else
          let node ← readNode hwnd structuralParent pid
          let children := childrenOf pairs hwnd
          let loaded ← loadChildren (loadTree pairs pid fuel (some hwnd)) children
            { opened with graph := opened.graph.insertNode node }
          return { loaded with graph := loaded.graph.setChildren hwnd children }
where
  loadChildren (load : Hwnd → Loading → EngineM Loading) :
      List Hwnd → Loading → EngineM Loading
    | [], loading => return loading
    | child :: rest, loading => do
        let loaded ← load child loading
        loadChildren load rest loaded

/-- The trees below the top-level windows, one after the other. The pairs of a tree are
found before it is loaded, and bound how deep it can be. -/
def loadTops : List (Hwnd × Pid) → Loading → EngineM WindowGraph
  | [], loading => return loading.graph
  | (hwnd, pid) :: rest, loading => do
      let pairs ← childMap hwnd
      let loaded ← loadTree pairs pid (pairs.length + 2) none hwnd loading
      loadTops rest loaded

/-- The graph of the processes. Their top-level windows are loaded in the order of their
handles; without a process Windows is not asked. -/
def buildGraph (pids : List Pid) : EngineM WindowGraph :=
  if pids.isEmpty then return WindowGraph.empty []
  else do
    let windows ← ask .enumWindows
    let found ← topLevelWindows pids windows
    let topLevel := found.insertionSort fun first second => first.1 ≤ second.1
    loadTops topLevel { graph := WindowGraph.empty pids, visited := [] }

end LayoutAdblock.Engine
