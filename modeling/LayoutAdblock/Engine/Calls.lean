import LayoutAdblock.Engine.Tick
import LayoutAdblock.Interaction.Guarded

namespace LayoutAdblock.Engine

open LayoutAdblock.Core Interaction

/-! # The calls of each program

Which calls a program can make, whatever it is answered.
-/

/-- What a call does to the caches, and what the caches answer. They are the engine's own,
so nobody else writes them between two calls. -/
def CachesStep (before after : EngineCaches) : (call : Call) → call.Answer → Prop
  | .readCaches, answer => answer = before ∧ after = before
  | .writeCaches caches, _ => after = caches
  | .iterateSnapshots, answer => answer.Perm before.snapshots.pairs ∧ after = before
  | _, _ => after = before

def OffCaches (call : Call) : Prop := ∀ caches, call ≠ .writeCaches caches

theorem CachesStep.unchanged {before after : EngineCaches} {call : Call} {answer : call.Answer}
    (off : OffCaches call) (step : CachesStep before after call answer) : after = before := by
  cases call with
  | writeCaches caches => exact absurd rfl (off caches)
  | readCaches => exact step.2
  | iterateSnapshots => exact step.2
  | _ => exact step

abbrev Quiet (call : Call) : Prop := call.mutates = none

abbrev TouchesOnly (hwnd : Hwnd) (call : Call) : Prop := Touches Call.mutates hwnd call

def Call.closes : Call → Bool
  | .sendMessageTimeout .. => true
  | _ => false

/-- A hide, a show or a `SetWindowPos`. -/
def Call.places : Call → Bool
  | .showWindow .. | .setWindowPos .. => true
  | _ => false

abbrev Opens (call : Call) : Prop := call.closes = false

/-- The call neither hides, shows nor moves anything. -/
abbrev Stays (call : Call) : Prop := call.places = false

/-- The call reads windows, flags or caches.  The clock and the iteration order
of a hash map are left out: they have no fixed answer even while nothing
changes. -/
def Call.reads : Call → Bool
  | .showWindow .. | .setWindowPos .. | .sendMessageTimeout .. | .note _ | .writeCaches _
  | .now | .iterateSnapshots => false
  | _ => true

/-- The reads whose answers last: a window may hang and recover at any moment. -/
def Call.firm : Call → Bool
  | .isHungAppWindow _ => false
  | call => call.reads

/-- The call only asks, and leaves windows and caches as they are. -/
abbrev Reads (call : Call) : Prop := call.reads = true

/-- The call only asks, and would be answered the same later on while nothing changes. -/
abbrev Firm (call : Call) : Prop := call.firm = true

theorem Firm.reads {call : Call} (firm : Firm call) : Reads call := by
  cases call <;> first | rfl | contradiction

theorem Reads.quiet {call : Call} (reads : Reads call) : Quiet call := by
  cases call <;> first | rfl | contradiction

theorem Reads.offCaches {call : Call} (reads : Reads call) : OffCaches call := by
  intro caches same
  subst same
  contradiction

theorem opens_of_quiet {call : Call} (quiet : Quiet call) : Opens call := by
  cases call <;> first | rfl | contradiction

theorem stays_of_quiet {call : Call} (quiet : Quiet call) : Stays call := by
  cases call <;> first | rfl | contradiction

theorem touches_of_quiet {hwnd : Hwnd} {call : Call} (quiet : Quiet call) :
    TouchesOnly hwnd call := by
  intro other changes
  rw [quiet] at changes
  contradiction

theorem ask_reads {call : Call} (reads : Reads call) : (ask call).Only Reads :=
  Program.only_ask.mpr reads

theorem ask_firm {call : Call} (firm : Firm call) : (ask call).Only Firm :=
  Program.only_ask.mpr firm

theorem ask_quiet {call : Call} (quiet : Quiet call) : (ask call).Only Quiet :=
  Program.only_ask.mpr quiet

theorem flagsAllow_firm : flagsAllow.Only Firm := by
  apply (ask_firm rfl).bind
  intro stopping
  split
  · trivial
  · apply (ask_firm rfl).bind
    intro enabled
    split
    · trivial
    · exact (ask_firm rfl).bind fun _ => trivial

theorem identityMatches_firm (identity : WindowIdentity) :
    (identityMatches identity).Only Firm := by
  apply (ask_firm rfl).bind
  intro alive
  split
  · trivial
  · apply (ask_firm rfl).bind
    intro pid
    split
    · trivial
    · exact (ask_firm rfl).bind fun _ => trivial

theorem flagsAllow_reads : flagsAllow.Only Reads := flagsAllow_firm.mono fun _ => Firm.reads

theorem identityMatches_reads (identity : WindowIdentity) :
    (identityMatches identity).Only Reads :=
  (identityMatches_firm identity).mono fun _ => Firm.reads

theorem precheck_reads (graph : WindowGraph) (pids : List Pid) (hwnd : Hwnd) :
    (precheck graph pids hwnd).Only Reads := by
  apply flagsAllow_reads.bind
  intro allowed
  split
  · trivial
  · cases graph.get hwnd with
    | none => trivial
    | some node =>
        dsimp only
        split
        · trivial
        · apply (identityMatches_reads node.identity).bind
          intro same
          split
          · trivial
          · exact (ask_reads rfl).bind fun _ => trivial

theorem captureSnapshot_firm (graph : WindowGraph) (hwnd : Hwnd) :
    (captureSnapshot graph hwnd).Only Firm := by
  unfold captureSnapshot
  cases graph.get hwnd with
  | none => trivial
  | some node =>
      exact (ask_firm rfl).bind fun _ => (ask_firm rfl).bind fun _ => trivial

theorem captureSnapshot_reads (graph : WindowGraph) (hwnd : Hwnd) :
    (captureSnapshot graph hwnd).Only Reads :=
  (captureSnapshot_firm graph hwnd).mono fun _ => Firm.reads

theorem readNode_firm (hwnd : Hwnd) (structuralParent : Option Hwnd) (pid : Pid) :
    (readNode hwnd structuralParent pid).Only Firm := by
  apply (ask_firm rfl).bind
  intro className
  apply (ask_firm rfl).bind
  intro title
  apply (ask_firm rfl).bind
  intro win32Parent
  apply (ask_firm rfl).bind
  intro rect
  exact (ask_firm rfl).bind fun _ => trivial

theorem loadChildren_firm {load : Hwnd → Loading → EngineM Loading} (children : List Hwnd)
    (each : ∀ child loading, (load child loading).Only Firm) (loading : Loading) :
    (loadTree.loadChildren load children loading).Only Firm := by
  induction children generalizing loading with
  | nil => trivial
  | cons child rest ih => exact (each child loading).bind ih

theorem loadTree_firm (pairs : List (Hwnd × Hwnd)) (pid : Pid) (fuel : Nat)
    (structuralParent : Option Hwnd) (hwnd : Hwnd) (loading : Loading) :
    (loadTree pairs pid fuel structuralParent hwnd loading).Only Firm := by
  induction fuel generalizing structuralParent hwnd loading with
  | zero => trivial
  | succ fuel ih =>
      unfold loadTree
      split
      · trivial
      · apply (ask_firm rfl).bind
        intro alive
        split
        · trivial
        · apply (readNode_firm hwnd structuralParent pid).bind
          intro node
          apply (loadChildren_firm _ (fun child loading => ih (some hwnd) child loading) _).bind
          intro loaded
          trivial

theorem childPairs_firm (descendants : List Hwnd) : (childPairs descendants).Only Firm := by
  induction descendants with
  | nil => trivial
  | cons child rest ih =>
      apply (ask_firm rfl).bind
      intro parent
      exact ih.bind fun _ => trivial

theorem topLevelWindows_firm (pids : List Pid) (windows : List Hwnd) :
    (topLevelWindows pids windows).Only Firm := by
  induction windows with
  | nil => trivial
  | cons hwnd rest ih =>
      apply (ask_firm rfl).bind
      intro pid
      exact ih.bind fun _ => trivial

theorem loadTops_firm (tops : List (Hwnd × Pid)) (loading : Loading) :
    (loadTops tops loading).Only Firm := by
  induction tops generalizing loading with
  | nil => trivial
  | cons top rest ih =>
      apply Program.Only.bind
      · exact (ask_firm rfl).bind childPairs_firm
      · intro pairs
        exact (loadTree_firm pairs top.2 _ none top.1 loading).bind ih

theorem buildGraph_firm (pids : List Pid) : (buildGraph pids).Only Firm := by
  unfold buildGraph
  split
  · trivial
  · apply (ask_firm rfl).bind
    intro windows
    apply (topLevelWindows_firm pids windows).bind
    intro found
    exact loadTops_firm _ _

theorem buildGraph_reads (pids : List Pid) : (buildGraph pids).Only Reads :=
  (buildGraph_firm pids).mono fun _ => Firm.reads

theorem modifySnapshots_quiet (change : Snapshots → Snapshots) :
    (modifySnapshots change).Only Quiet :=
  (ask_quiet rfl).bind fun _ => ask_quiet rfl

theorem rememberSnapshot_quiet (graph : WindowGraph) (hwnd : Hwnd) :
    (rememberSnapshot graph hwnd).Only Quiet := by
  unfold rememberSnapshot
  cases graph.get hwnd with
  | none => trivial
  | some node =>
      apply (ask_quiet rfl).bind
      intro caches
      split
      · trivial
      · apply ((captureSnapshot_reads graph hwnd).mono fun _ => Reads.quiet).bind
        intro captured
        cases captured with
        | none => trivial
        | some snap => exact modifySnapshots_quiet _

theorem prechecked_only {allowed : Call → Prop} {graph : WindowGraph} {pids : List Pid}
    {hwnd : Hwnd} {body : EngineM Unit} (reads : ∀ call, Reads call → allowed call)
    (only : body.Only allowed) : (prechecked graph pids hwnd body).Only allowed := by
  apply ((precheck_reads graph pids hwnd).mono reads).bind
  intro checked
  split
  · exact only
  · trivial

theorem captureWindow_quiet (graph : WindowGraph) (pids : List Pid) (hwnd : Hwnd) :
    (captureWindow graph pids hwnd).Only Quiet :=
  prechecked_only (fun _ => Reads.quiet) (rememberSnapshot_quiet graph hwnd)

theorem retainMatching_quiet : retainMatching.Only Quiet := by
  apply (ask_quiet rfl).bind
  intro entries
  apply Program.Only.forEach
  intro entry
  apply ((identityMatches_reads entry.1).mono fun _ => Reads.quiet).bind
  intro same
  split
  · trivial
  · exact modifySnapshots_quiet _

/-- The calls of a pass that hides or positions one window: they act on no other window, and
they leave the caches alone. -/
structure PlaceCall (hwnd : Hwnd) (call : Call) : Prop where
  touches : TouchesOnly hwnd call
  off : OffCaches call
  opens : Opens call

/-- The calls of a close request. -/
structure CloseCall (hwnd : Hwnd) (call : Call) : Prop where
  touches : TouchesOnly hwnd call
  off : OffCaches call
  stays : Stays call

theorem touches_self {hwnd : Hwnd} {call : Call} (changes : call.mutates = some hwnd) :
    TouchesOnly hwnd call := by
  intro other also
  exact Option.some.inj (also.symm.trans changes)

theorem hideVisible_calls (hwnd : Hwnd) : (hideVisible hwnd).Only (PlaceCall hwnd) := by
  apply (Program.only_ask.mpr ⟨touches_of_quiet rfl, by simp [OffCaches], rfl⟩).bind
  intro visible
  split
  · trivial
  · apply (Program.only_ask.mpr ⟨touches_self rfl, by simp [OffCaches], rfl⟩).bind
    intro hidden
    split
    · exact Program.only_ask.mpr ⟨touches_of_quiet rfl, by simp [OffCaches], rfl⟩
    · trivial

theorem resizeWindow_calls (graph : WindowGraph) (hwnd : Hwnd) (pos : List Int)
    (isViewResize : Bool) :
    (resizeWindow graph hwnd pos isViewResize).Only (PlaceCall hwnd) := by
  apply (Program.only_ask.mpr ⟨touches_self rfl, by simp [OffCaches], rfl⟩).bind
  intro applied
  split
  · exact Program.only_ask.mpr ⟨touches_of_quiet rfl, by simp [OffCaches], rfl⟩
  · trivial

theorem requestClose_calls (hwnd : Hwnd) (timeoutMs : Nat) :
    (requestClose hwnd timeoutMs).Only (CloseCall hwnd) := by
  apply (Program.only_ask.mpr ⟨touches_self rfl, by simp [OffCaches], rfl⟩).bind
  intro delivered
  apply (Program.only_ask.mpr ⟨touches_of_quiet rfl, by simp [OffCaches], rfl⟩).bind
  intro alive
  split
  · exact Program.only_ask.mpr ⟨touches_of_quiet rfl, by simp [OffCaches], rfl⟩
  · trivial

/-- The calls of a restore of one window. -/
inductive RestoreCall (hwnd : Hwnd) : Call → Prop where
  | hung : RestoreCall hwnd (.isHungAppWindow hwnd)
  | position (x y width height : Int) (flags : List SwpFlag) :
      RestoreCall hwnd (.setWindowPos hwnd x y width height flags)
  | «show» : RestoreCall hwnd (.showWindow hwnd .show)
  | style : RestoreCall hwnd (.hasVisibleStyle hwnd)

theorem RestoreCall.touches {hwnd : Hwnd} {call : Call} (restores : RestoreCall hwnd call) :
    TouchesOnly hwnd call := by
  intro other changes
  cases restores with
  | hung => contradiction
  | style => contradiction
  | position => exact (Option.some.inj changes).symm
  | «show» => exact (Option.some.inj changes).symm

theorem RestoreCall.offCaches {hwnd : Hwnd} {call : Call} (restores : RestoreCall hwnd call) :
    OffCaches call := by
  intro caches same
  subst same
  cases restores

theorem restorePosition_calls (snap : RestoreSnapshot) :
    (restoreSnapshot.restorePosition snap).Only (RestoreCall snap.identity.hwnd) := by
  unfold restoreSnapshot.restorePosition
  cases snap.rect with
  | none => trivial
  | some rect =>
      dsimp only
      split
      · exact Program.only_ask.mpr (RestoreCall.position ..)
      · trivial

theorem restoreVisibility_calls (snap : RestoreSnapshot) :
    (restoreSnapshot.restoreVisibility snap).Only (RestoreCall snap.identity.hwnd) := by
  unfold restoreSnapshot.restoreVisibility
  split
  · apply (Program.only_ask.mpr RestoreCall.show).bind
    intro _
    exact Program.only_ask.mpr RestoreCall.style
  · trivial

theorem restoreSnapshot_calls (snap : RestoreSnapshot) (lastError : String) :
    (restoreSnapshot snap lastError).Only (RestoreCall snap.identity.hwnd) := by
  apply (Program.only_ask.mpr RestoreCall.hung).bind
  intro hung
  split
  · trivial
  · apply (restorePosition_calls snap).bind
    intro positioned
    apply (restoreVisibility_calls snap).bind
    intro shown
    trivial

end LayoutAdblock.Engine
