import LayoutAdblock.Core.Text

namespace LayoutAdblock.Core

/-- A window handle, as the integer the graph is keyed by; zero is no window. -/
abbrev Hwnd := Int

/-- The number of a process; that of a window without one is zero. -/
abbrev Pid := Int

/-- What the streaks of the evaluator are kept under. A handle can be reused by another
process or for another class, so neither alone says which window was seen before. -/
structure WindowIdentity where
  hwnd : Hwnd
  pid : Pid
  className : String
deriving DecidableEq, Repr

/-- Coordinates are `i32` in the source.  They are integers here, and the two operations
that depend on the width say so: `saturating_sub` clamps, and the plain operators of the
release profile wrap around. -/
def clampI32 (value : Int) : Int := max (-2147483648) (min value 2147483647)

/-- The value the release build goes on with where an `i32` overflows. -/
def wrapI32 (value : Int) : Int := value.bmod 4294967296

theorem wrapI32_of_fits {value : Int} (low : -2147483648 ≤ value) (high : value ≤ 2147483647) :
    wrapI32 value = value := by
  unfold wrapI32
  apply Int.bmod_eq_of_le
  · omega
  · omega

theorem wrapI32_le (value : Int) : wrapI32 value ≤ 2147483647 := by
  unfold wrapI32
  have below := @Int.bmod_lt value 4294967296 (by decide)
  omega

/-- What an `i64` holds of a sum in the release profile. -/
def wrapI64 (value : Int) : Int := value.bmod 18446744073709551616

theorem clampI32_le (value : Int) : clampI32 value ≤ 2147483647 := by
  unfold clampI32
  omega

/-- A rectangle in screen coordinates, as the edges `GetWindowRect` reports them. Nothing
says that they are in order, so width and height may come out negative. -/
structure Rect where
  left : Int
  top : Int
  right : Int
  bottom : Int
deriving DecidableEq, Repr

/-- Saturating: hostile or corrupt coordinates must never stop the evaluator. -/
def Rect.width (rect : Rect) : Int := clampI32 (rect.right - rect.left)

/-- Like the width it saturates, since corrupt coordinates must not stop the evaluator. -/
def Rect.height (rect : Rect) : Int := clampI32 (rect.bottom - rect.top)

/-- What was read of a title. A title that could not be read is not an empty one, and one
that was cut off still says what it begins with. -/
inductive WindowText where
  | known (text : String)
  | unknown (errorCode : Nat)
  | truncated (text : String)
deriving DecidableEq, Repr

/-- The text the rules are matched against, empty where none could be read. -/
def WindowText.asStr : WindowText → String
  | .known text | .truncated text => text
  | .unknown _ => ""

/-- A truncated text counts as known, for what was read of it is true of the title. -/
def WindowText.isKnown : WindowText → Bool
  | .unknown _ => false
  | _ => true

/-- A window as one snapshot of the screen has it. The structural parent makes the tree; the
owner only matters to a window that has no parent. -/
structure WindowNode where
  hwnd : Hwnd
  pid : Pid
  className : String
  title : WindowText
  structuralParent : Option Hwnd
  owner : Option Hwnd
  rect : Option Rect
  visible : Bool
deriving DecidableEq, Repr

namespace WindowNode

/-- The part of a node that is the same while the window lives. -/
def identity (node : WindowNode) : WindowIdentity where
  hwnd := node.hwnd
  pid := node.pid
  className := node.className

def text (node : WindowNode) : String := node.title.asStr

def textKnown (node : WindowNode) : Bool := node.title.isKnown

/-- The window `GetParent` reports: the owner of a top-level window, the
structural parent of a child, and the null handle when there is neither. -/
def win32Parent (node : WindowNode) : Hwnd :=
  (node.owner.or node.structuralParent).getD 0

@[simp] theorem identity_hwnd (node : WindowNode) : node.identity.hwnd = node.hwnd := rfl
@[simp] theorem identity_pid (node : WindowNode) : node.identity.pid = node.pid := rfl
@[simp] theorem identity_className (node : WindowNode) :
    node.identity.className = node.className := rfl

end WindowNode

/-- Everything about a window that speaks for an advertisement, as the diagnostics print it.
A decision carries the signs it was reached by. -/
structure AdSignals where
  legacySignature : String := ""
  popupDirectClass : Bool := false
  popupDescendantClass : Bool := false
  popupMatchDepth : Int := 0
  chromeWidgetBottomBanner : Bool := false
  subtreeAdToken : Bool := false
  emptyEvaChild : Bool := false
  popupHostGuard : String := ""
deriving DecidableEq, Repr

/-- No sign of an advertisement, and no popup host that a guard would be of. -/
def AdSignals.blank : AdSignals := { popupHostGuard := "n/a" }

/-- Some sign is there, even if the rules let nothing follow from it. The diagnostic pass
keeps track of such windows. -/
def AdSignals.hasRelevantSignal (signals : AdSignals) : Bool :=
  signals.legacySignature != "" || signals.popupDirectClass || signals.popupDescendantClass ||
    signals.chromeWidgetBottomBanner || signals.subtreeAdToken || signals.emptyEvaChild

/-- How sure a decision is. A strong one takes effect at once, a weak one only after it was
made in enough evaluations in a row. -/
inductive DecisionStrength where
  | none | weak | strong
deriving DecidableEq, Repr

def DecisionStrength.asStr : DecisionStrength → String
  | .none => "none"
  | .weak => "weak"
  | .strong => "strong"

/-- What a decision wants done with its window. Only popups are dismissed, which asks them
to close and hides them where they do not. -/
inductive ActionKind where
  | none | hide | close | dismissPopup
deriving DecidableEq, Repr

def ActionKind.asStr : ActionKind → String
  | .none => "none"
  | .hide => "hide"
  | .close => "close"
  | .dismissPopup => "dismiss_popup"

/-- A verdict on one window with the signs it was reached by. The combinations of strength
and action are those the constructors below build. -/
structure AdDecision where
  signals : AdSignals
  decision : DecisionStrength
  action : ActionKind
deriving DecidableEq, Repr

namespace AdDecision

/-- No advertisement, whatever the signs; it counts as a miss. -/
def none (signals : AdSignals) : AdDecision where
  signals := signals
  decision := .none
  action := .none

/-- The window is to be hidden, at once or after a streak, as the strength says. -/
def hide (decision : DecisionStrength) (signals : AdSignals) : AdDecision where
  signals := signals
  decision := decision
  action := .hide

/-- The window is to be closed. The evaluator only wants this of empty children. -/
def close (decision : DecisionStrength) (signals : AdSignals) : AdDecision where
  signals := signals
  decision := decision
  action := .close

/-- A popup is dismissed on sight: the decision is always a strong one. -/
def dismissPopup (signals : AdSignals) : AdDecision where
  signals := signals
  decision := .strong
  action := .dismissPopup

/-- The window counts as an advertisement this time. Only such a verdict lets a streak grow. -/
def matched (decision : AdDecision) : Bool :=
  decision.decision != .none && decision.action != .none

@[simp] theorem matched_none (signals : AdSignals) : (none signals).matched = false := rfl
@[simp] theorem matched_hide_weak (signals : AdSignals) :
    (hide .weak signals).matched = true := rfl
@[simp] theorem matched_hide_strong (signals : AdSignals) :
    (hide .strong signals).matched = true := rfl
@[simp] theorem matched_close_weak (signals : AdSignals) :
    (close .weak signals).matched = true := rfl
@[simp] theorem matched_dismissPopup (signals : AdSignals) :
    (dismissPopup signals).matched = true := rfl

end AdDecision

/-- The streak counters of one window, `i64` in the source.  The range is not in the
type: a `Counting` says what adding one to a counter gives. -/
structure CandidateState where
  matchStreak : Int := 0
  missStreak : Int := 0
deriving DecidableEq, Repr

/-- `HashMap<WindowIdentity, CandidateState>`, read by key only, so that its iteration order
cannot show. -/
abbrev StateMap := WindowIdentity → Option CandidateState

/-- Nothing has been seen yet, as at the start of the worker and in every dump of a single
tree. -/
def StateMap.empty : StateMap := fun _ => none

/-- `entry(identity).or_default()` and what the caller then stores there. Every other window
keeps its state. -/
def StateMap.insert (states : StateMap) (identity : WindowIdentity)
    (state : CandidateState) : StateMap :=
  fun key => if key = identity then some state else states key

@[simp] theorem StateMap.insert_self (states : StateMap) (identity : WindowIdentity)
    (state : CandidateState) : states.insert identity state identity = some state := by
  simp [StateMap.insert]

theorem StateMap.insert_other (states : StateMap) {key identity : WindowIdentity}
    (state : CandidateState) (different : key ≠ identity) :
    states.insert identity state key = states key := by
  simp [StateMap.insert, different]

/-- Whether the text of a popup's host lets it be dismissed. A host whose text says nothing
of an advertisement may be a dialog of KakaoTalk itself. -/
inductive PopupGuard where
  | na | allow | blocked
deriving DecidableEq, Repr

def PopupGuard.asStr : PopupGuard → String
  | .na => "n/a"
  | .allow => "allow"
  | .blocked => "blocked"

end LayoutAdblock.Core
