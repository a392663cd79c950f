import LayoutAdblock.Core.Evaluate.Orchestrate
import LayoutAdblock.Data.Json

namespace LayoutAdblock.Dump

open LayoutAdblock.Core Data

/-! # Loading a dump

`WindowGraph::from_dump_json`.  A derived reader goes over the entries of an
object: known keys are read at their types and may occur once, unknown keys are
skipped, and at the end every required key must have been seen.  A record written
as a bare array of its fields, which no dump contains, is left out.  The text
itself is taken apart by `serde_json`, which is a parameter here.
-/

/-- A window of a dump with its children. The file says nothing of its structural parent,
which is where it stands. -/
structure DumpNode where
  hwnd : Hwnd
  «class» : String
  text : String
  pid : Pid
  visible : Bool
  rect : Option Rect
  owner : Option Hwnd
  children : List DumpNode

/-- What is read of a dump. The diagnostics in it are ignored, for they are computed again. -/
structure DumpFile where
  pids : List Pid
  windows : List DumpNode

/-- What has been read of a node so far. -/
structure PartialNode where
  hwnd : Option Hwnd := none
  «class» : Option String := none
  text : Option String := none
  pid : Option Pid := none
  visible : Option Bool := none
  rect : Option (Option Rect) := none
  owner : Option (Option Hwnd) := none
  children : Option (List DumpNode) := none

/-- A missing `rect` reads as none; `owner` and `children` have defaults. -/
def PartialNode.finish (found : PartialNode) : Option DumpNode := do
  let hwnd ← found.hwnd
  let «class» ← found.«class»
  let text ← found.text
  let pid ← found.pid
  let visible ← found.visible
  return { hwnd, «class», text, pid, visible, rect := found.rect.getD none,
           owner := found.owner.getD none, children := found.children.getD [] }

/-- `[i32; 4]`, and `Rect::from_xyxy` of it. -/
def readRect : Json → Option Rect
  | .array [left, top, right, bottom] => do
      let left ← Json.readInt Json.i32 left
      let top ← Json.readInt Json.i32 top
      let right ← Json.readInt Json.i32 right
      let bottom ← Json.readInt Json.i32 bottom
      return { left, top, right, bottom }
  | _ => none

def once {α : Type} (seen value : Option α) : Option (Option α) :=
  match seen with
  | none => value.map some
  | some _ => none

mutual

/-- A window of the file, or nothing where a field of it has the wrong type, occurs twice or
is missing. -/
def readNode : Json → Option DumpNode
  | .object fields => (readNodeFields {} fields).bind PartialNode.finish
  | _ => none

/-- The fields of a window in any order, each of them at most once. A field nobody knows is
skipped. -/
def readNodeFields (found : PartialNode) : List (String × Json) → Option PartialNode
  | [] => some found
  | (key, value) :: rest =>
      let next :=
        if key = "hwnd" then
          (once found.hwnd (Json.readInt Json.i64 value)).map fun hwnd => { found with hwnd }
        else if key = "class" then
          (once found.«class» (Json.readString value)).map fun name =>
            { found with «class» := name }
        else if key = "text" then
          (once found.text (Json.readString value)).map fun text => { found with text }
        else if key = "pid" then
          (once found.pid (Json.readInt Json.i64 value)).map fun pid => { found with pid }
        else if key = "visible" then
          (once found.visible (Json.readBool value)).map fun visible => { found with visible }
        else if key = "rect" then
          (once found.rect (Json.readOption readRect value)).map fun rect => { found with rect }
        else if key = "owner" then
          (once found.owner (Json.readOption (Json.readInt Json.i64) value)).map fun owner =>
            { found with owner }
        else if key = "children" then
          (once found.children (readNodes value)).map fun children => { found with children }
        else some found
      match next with
      | none => none
      | some found => readNodeFields found rest

/-- The children of a window, or the windows of a dump. -/
def readNodes : Json → Option (List DumpNode)
  | .array items => readNodeList items
  | _ => none

/-- A list of windows, all of which have to be readable. -/
def readNodeList : List Json → Option (List DumpNode)
  | [] => some []
  | item :: rest =>
      match readNode item with
      | none => none
      | some node => (readNodeList rest).map (node :: ·)

end

/-- What has been read of the file so far. -/
structure PartialFile where
  pids : Option (List Pid) := none
  windows : Option (List DumpNode) := none

def PartialFile.finish (found : PartialFile) : Option DumpFile := do
  let pids ← found.pids
  let windows ← found.windows
  return { pids, windows }

/-- The fields of a dump in any order, each of them at most once. -/
def readFileFields (found : PartialFile) : List (String × Json) → Option PartialFile
  | [] => some found
  | (key, value) :: rest =>
      let next :=
        if key = "pids" then
          (once found.pids (Json.readList (Json.readInt Json.i64) value)).map fun pids =>
            { found with pids }
        else if key = "windows" then
          (once found.windows (readNodes value)).map fun windows => { found with windows }
        else some found
      match next with
      | none => none
      | some found => readFileFields found rest

/-- A dump as it is in the file, or nothing where the document is not one. -/
def readFile : Json → Option DumpFile
  | .object fields => (readFileFields {} fields).bind PartialFile.finish
  | _ => none

/-- The node that `load_node` stores. -/
def DumpNode.windowNode (node : DumpNode) (structuralParent : Option Hwnd) : WindowNode where
  hwnd := node.hwnd
  pid := node.pid
  className := node.«class»
  title := .known node.text
  structuralParent := structuralParent
  owner := node.owner.filter (· != 0)
  rect := node.rect
  visible := node.visible

mutual

/-- A window is put into the graph with the handles of its children, and then its children
below it. -/
def loadNode (graph : WindowGraph) (structuralParent : Option Hwnd) : DumpNode → WindowGraph
  | ⟨hwnd, name, text, pid, visible, rect, owner, children⟩ =>
      let node : DumpNode := ⟨hwnd, name, text, pid, visible, rect, owner, children⟩
      let inserted := graph.insertNode (node.windowNode structuralParent)
      let listed := inserted.setChildren hwnd (children.map DumpNode.hwnd)
      loadNodes listed (some hwnd) children

/-- The windows of a list under one parent, in the order of the file. -/
def loadNodes (graph : WindowGraph) (structuralParent : Option Hwnd) :
    List DumpNode → WindowGraph
  | [] => graph
  | node :: rest => loadNodes (loadNode graph structuralParent node) structuralParent rest

end

/-- The graph of a dump, whose windows on the top level have no structural parent. -/
def loadFile (dump : DumpFile) : WindowGraph :=
  loadNodes (WindowGraph.empty dump.pids) none dump.windows

/-- The graph of a text, for a parser that is given. -/
def fromDumpJson (parse : String → Option Json) (text : String) : Option WindowGraph :=
  ((parse text).bind readFile).map loadFile

/-- `evaluate_dump`: load a dump and evaluate it from empty states, so that nothing of an
earlier run can show. -/
def evaluateDump [Unicode] (parse : String → Option Json) (text : String)
    (settings : LayoutSettings) (rules : LayoutRules) : Option Evaluation :=
  (fromDumpJson parse text).map fun graph => evaluateGraph graph settings rules

end LayoutAdblock.Dump
