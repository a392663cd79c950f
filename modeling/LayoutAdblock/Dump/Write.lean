import LayoutAdblock.Core.Evaluate.Orchestrate
import LayoutAdblock.Data.Json

namespace LayoutAdblock.Dump

open LayoutAdblock.Core Data

/-! # Writing a dump -/

/-- The depth limit that `graph_to_dump` passes to `dump_node`. -/
def maxDepth : Nat := 6

/-- A title as it is dumped, with `text_known`. -/
def dumpTitle : WindowText → String × Bool
  | .known text => (text, true)
  | .truncated text => (text, true)
  | .unknown _ => ("", false)

/-- A rectangle as its four edges; none where it could not be read. -/
def dumpRect : Option Rect → Json
  | none => .null
  | some rect =>
      .array [.number rect.left, .number rect.top, .number rect.right, .number rect.bottom]

def dumpFields (node : WindowNode) (depth : Nat) (children : List Json) : List (String × Json) :=
  let title := dumpTitle node.title
  [("children", .array children), ("class", .string node.className), ("depth", .number depth),
   ("hwnd", .number node.hwnd), ("pid", .number node.pid), ("rect", dumpRect node.rect),
   ("text", .string title.1), ("text_known", .bool title.2), ("visible", .bool node.visible)]

/-- `dump_node`; the recursion is on the levels left, `max_depth - depth`. -/
def dumpNode (graph : WindowGraph) : Nat → Nat → Hwnd → Json
  | 0, depth, hwnd =>
      match graph.get hwnd with
      | none => .object []
      | some node => .object (dumpFields node depth [])
  | levels + 1, depth, hwnd =>
      match graph.get hwnd with
      | none => .object []
      | some node =>
          .object (dumpFields node depth
            ((graph.enumChildren hwnd).map (dumpNode graph levels (depth + 1))))

/-- The payload of a main window, with its keys in the order the file has them. -/
def mainWindowJson (payload : MainWindowPayload) : Json :=
  .object
    [("child_signature", .bool payload.childSignature), ("class", .string payload.className),
     ("confirmed", .bool payload.confirmed), ("confirmation", .string payload.confirmation),
     ("hwnd", .number payload.hwnd), ("pid", .number payload.pid),
     ("structural_candidate", .bool payload.structuralCandidate), ("text", .string payload.text),
     ("title_match", .bool payload.titleMatch)]

/-- The signs of an advertisement, each under its own key. -/
def signalsJson (signals : AdSignals) : Json :=
  .object
    [("chrome_widget_bottom_banner", .bool signals.chromeWidgetBottomBanner),
     ("empty_eva_child", .bool signals.emptyEvaChild),
     ("legacy_signature", .string signals.legacySignature),
     ("popup_descendant_class", .bool signals.popupDescendantClass),
     ("popup_direct_class", .bool signals.popupDirectClass),
     ("popup_host_guard", .string signals.popupHostGuard),
     ("popup_match_depth", .number signals.popupMatchDepth),
     ("subtree_ad_token", .bool signals.subtreeAdToken)]

def candidateJson (payload : CandidatePayload) : Json :=
  .object
    [("action", .string payload.action), ("class", .string payload.className),
     ("decision", .string payload.decision), ("hwnd", .number payload.hwnd),
     ("match_streak", .number payload.matchStreak), ("miss_streak", .number payload.missStreak),
     ("pid", .number payload.pid), ("signals", signalsJson payload.signals)]

/-- The top-level windows with a node, in the order of the dump. -/
def dumpedTops (graph : WindowGraph) : List WindowNode := graph.enumWindows.filterMap graph.get

/-- Whether a top-level window goes to the list of owned popups. An owner without a handle
is none. -/
def isOwned (node : WindowNode) : Bool := node.owner.getD 0 != 0

/-- The whole dump. Windows with an owner are listed apart from the others, with the owner
they belong to. -/
def graphToDump (timestamp : String) (graph : WindowGraph) (evaluation : Evaluation) : Json :=
  let dumped := fun node : WindowNode => dumpNode graph maxDepth 0 node.hwnd
  let windows := ((dumpedTops graph).filter fun node => !isOwned node).map dumped
  let ownedPopups := ((dumpedTops graph).filter isOwned).map fun node =>
    (dumped node).setField "owner" (.number (node.owner.getD 0))
  .object
    [("candidates", .array (evaluation.candidates.map candidateJson)),
     ("main_windows", .array (evaluation.mainWindows.map mainWindowJson)),
     ("owned_popups", .array ownedPopups), ("pids", .array (graph.pids.map .number)),
     ("timestamp", .string timestamp), ("windows", .array windows)]

end LayoutAdblock.Dump
