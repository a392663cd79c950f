import LayoutAdblock.Engine.Calls

namespace LayoutAdblock.Engine

open LayoutAdblock.Core Interaction Environment

/-! # Desktops that only the engine changes

The windows, their processes, classes and parents are fixed and every call
succeeds.  Visibility and geometry change by the engine's own calls alone.  A
window hangs for good, responds for good, or does either at any moment.
-/

/-- The position of a window in the client area of its parent, or on the screen
for a top-level window, and its size. -/
structure Place where
  x : Int
  y : Int
  width : Int
  height : Int
deriving DecidableEq, Repr

/-- What does not change while the engine runs: the windows with their processes, classes
and places in the tree, and the switches. -/
structure Desktop where
  /-- The user's switch. -/
  enabled : Bool := true
  /-- Whether a window hangs; nothing for one that hangs and recovers at any
  moment. -/
  hung : Hwnd → Option Bool := fun _ => some false
  live : Hwnd → Bool
  pid : Hwnd → Pid
  className : Hwnd → String
  parent : Hwnd → Option Hwnd
  /-- What `GetParent` answers for a top-level window. -/
  owner : Hwnd → Hwnd
  /-- Where the client area of a window starts. -/
  client : Hwnd → Int × Int
  /-- The order of `EnumWindows` and of `EnumChildWindows`. -/
  tops : List Hwnd
  descendants : Hwnd → List Hwnd
  depth : Hwnd → Nat
  topsAbove : ∀ hwnd ∈ tops, parent hwnd = none
  descendantsBelow : ∀ top, ∀ hwnd ∈ descendants top, (parent hwnd).isSome = true
  parentAbove : ∀ {hwnd above}, parent hwnd = some above → depth above < depth hwnd

/-- What the engine changes, and what may change by itself: visibility, places and titles. -/
structure DesktopState where
  caches : EngineCaches := {}
  /-- The `WS_VISIBLE` of each window. -/
  visible : Hwnd → Bool
  place : Hwnd → Place
  title : Hwnd → WindowText
  aggressive : Bool := true
  /-- The windows the engine has shown, and those it has given a positive size. -/
  shown : List Hwnd := []
  grown : List Hwnd := []

/-- The calls that have no fixed answer on a fixed desktop: `ShowWindow` returns
no success, a window may do anything with a close request but die. -/
def Call.free : Call → Bool
  | .showWindow .. | .sendMessageTimeout .. | .now | .iterateSnapshots => true
  | _ => false

namespace Desktop

variable (desktop : Desktop)

def identity (hwnd : Hwnd) : WindowIdentity where
  hwnd := hwnd
  pid := desktop.pid hwnd
  className := desktop.className hwnd

/-- What `GetParent` answers, which is the owner of a window on the top level. -/
def getParent (hwnd : Hwnd) : Hwnd :=
  match desktop.parent hwnd with
  | some parent => parent
  | none => desktop.owner hwnd

/-- The top left corner of a window on the screen. -/
def origin (place : Hwnd → Place) : Nat → Hwnd → Int × Int
  | 0, hwnd => ((place hwnd).x, (place hwnd).y)
  | levels + 1, hwnd =>
      match desktop.parent hwnd with
      | none => ((place hwnd).x, (place hwnd).y)
      | some parent =>
          let corner := origin place levels parent
          (corner.1 + (desktop.client parent).1 + (place hwnd).x,
            corner.2 + (desktop.client parent).2 + (place hwnd).y)

/-- `GetWindowRect`. -/
def screenRect (place : Hwnd → Place) (hwnd : Hwnd) : Rect :=
  let corner := desktop.origin place (desktop.depth hwnd) hwnd
  { left := corner.1
    top := corner.2
    right := corner.1 + (place hwnd).width
    bottom := corner.2 + (place hwnd).height }

/-- `IsWindowVisible`: the window and all its ancestors have the style. A child of a hidden
window keeps its style and is not visible. -/
def shows (visible : Hwnd → Bool) : Nat → Hwnd → Bool
  | 0, hwnd => visible hwnd
  | levels + 1, hwnd =>
      visible hwnd &&
        match desktop.parent hwnd with
        | none => true
        | some parent => shows visible levels parent

def answer (state : DesktopState) : (call : Call) → call.Answer
  | .enumWindows => desktop.tops
  | .enumDescendantWindows top => desktop.descendants top
  | .getWindowThreadProcessId hwnd => desktop.pid hwnd
  | .getClassName hwnd => desktop.className hwnd
  | .getWindowTextResult hwnd => state.title hwnd
  | .getParent hwnd => desktop.getParent hwnd
  | .getWindowRect hwnd => some (desktop.screenRect state.place hwnd)
  | .isWindow hwnd => desktop.live hwnd
  | .isWindowVisible hwnd => desktop.shows state.visible (desktop.depth hwnd) hwnd
  | .hasVisibleStyle hwnd => state.visible hwnd
  | .isHungAppWindow hwnd => (desktop.hung hwnd).getD false
  | .showWindow _ _ | .setWindowPos _ _ _ _ _ _ => true
  | .sendMessageTimeout _ _ _ _ _ => (true, 0)
  | .load .stopping => false
  | .load .enabled => desktop.enabled
  | .load .apply => true
  | .load .aggressive => state.aggressive
  | .now => (0 : Nat)
  | .note _ | .writeCaches _ => ()
  | .readCaches => state.caches
  | .iterateSnapshots => state.caches.snapshots.pairs

def Answers (state : DesktopState) : (call : Call) → call.Answer → Prop
  | .isHungAppWindow hwnd, answer => ∀ hung, desktop.hung hwnd = some hung → answer = hung
  | call, answer => call.free = false → answer = desktop.answer state call

end Desktop

namespace DesktopState

variable (state : DesktopState)

/-- The window is shown or hidden, and a show is recorded. -/
def setVisible (hwnd : Hwnd) (command : ShowCommand) : DesktopState :=
  { state with
    visible := fun other => if other = hwnd then decide (command = .show) else state.visible other
    shown := if command = .show then hwnd :: state.shown else state.shown }

def moved (place : Place) (x y width height : Int) (flags : List SwpFlag) : Place where
  x := if flags.contains .noMove then place.x else x
  y := if flags.contains .noMove then place.y else y
  width := max 0 width
  height := max 0 height

/-- The window is moved as the flags say, and a positive size is recorded. -/
def setPlace (hwnd : Hwnd) (x y width height : Int) (flags : List SwpFlag) : DesktopState :=
  { state with
    place := fun other =>
      if other = hwnd then moved (state.place other) x y width height flags
      else state.place other
    grown := if 0 < width ∧ 0 < height then hwnd :: state.grown else state.grown }

def effect : Call → DesktopState
  | .showWindow hwnd command => state.setVisible hwnd command
  | .setWindowPos hwnd x y width height flags => state.setPlace hwnd x y width height flags
  | _ => state

end DesktopState

/-- Windows over such a desktop. Nothing happens between two calls, and the hash maps are
iterated in any order. -/
def Desktop.environment (desktop : Desktop) :
    Environment Call Call.Answer DesktopState where
  step call before answer after :=
    desktop.Answers before call answer ∧
      ∃ caches, CachesStep before.caches caches call answer ∧
        after = { before.effect call with caches := caches }

namespace Desktop

variable {desktop : Desktop}

def handler (desktop : Desktop) (call : Call) (state : DesktopState) :
    call.Answer × DesktopState :=
  (desktop.answer state call,
    { state.effect call with
      caches := match call with
        | .writeCaches caches => caches
        | _ => state.caches })

theorem answer_answers (desktop : Desktop) (state : DesktopState) (call : Call) :
    desktop.Answers state call (desktop.answer state call) := by
  cases call with
  | isHungAppWindow hwnd =>
      intro hung same
      rw [answer, same]
      rfl
  | _ => exact fun _ => rfl

theorem handler_realizes (desktop : Desktop) (call : Call) (state : DesktopState) :
    desktop.environment.step call state (desktop.handler call state).1
      (desktop.handler call state).2 := by
  refine ⟨desktop.answer_answers state call, _, ?_, rfl⟩
  cases call with
  | readCaches => exact ⟨rfl, rfl⟩
  | iterateSnapshots => exact ⟨List.Perm.refl _, rfl⟩
  | _ => rfl

theorem screenRect_width (place : Hwnd → Place) (hwnd : Hwnd) :
    (desktop.screenRect place hwnd).width = clampI32 (place hwnd).width := by
  simp only [screenRect, Rect.width]
  congr 1
  omega

theorem screenRect_height (place : Hwnd → Place) (hwnd : Hwnd) :
    (desktop.screenRect place hwnd).height = clampI32 (place hwnd).height := by
  simp only [screenRect, Rect.height]
  congr 1
  omega

/-- A top-level window has its position on the screen. -/
theorem origin_top (place : Hwnd → Place) (levels : Nat) {hwnd : Hwnd}
    (top : desktop.parent hwnd = none) :
    desktop.origin place levels hwnd = ((place hwnd).x, (place hwnd).y) := by
  cases levels with
  | zero => rfl
  | succ levels => simp only [origin, top]

theorem screenRect_top {first second : Hwnd → Place} {hwnd : Hwnd}
    (top : desktop.parent hwnd = none) (same : first hwnd = second hwnd) :
    desktop.screenRect first hwnd = desktop.screenRect second hwnd := by
  simp only [screenRect, origin_top _ _ top, same]

/-- A call with a fixed answer. -/
theorem Answers.fixed {state : DesktopState} {call : Call} {answer : call.Answer}
    (answers : desktop.Answers state call answer) (bound : call.free = false)
    (notHung : ∀ hwnd, call ≠ .isHungAppWindow hwnd) : answer = desktop.answer state call := by
  cases call with
  | isHungAppWindow hwnd => exact absurd rfl (notHung hwnd)
  | _ => exact answers bound

/-- A read has no effect. -/
theorem step_still {call : Call} {before after : DesktopState} {answer : call.Answer}
    (reads : Reads call) (step : desktop.environment.step call before answer after) :
    after = before := by
  obtain ⟨_, caches, stepped, rfl⟩ := step
  have same := stepped.unchanged reads.offCaches
  have still : before.effect call = before := by
    cases call <;> first | rfl | contradiction
  rw [still, same]

/-- On a fixed desktop a read has one answer, unless it asks whether a window hangs. -/
theorem step_firm {call : Call} {before after : DesktopState} {answer : call.Answer}
    (firm : Firm call) (step : desktop.environment.step call before answer after) :
    answer = desktop.answer before call ∧ after = before := by
  have bound : call.free = false := by
    cases call <;> first | rfl | contradiction
  have notHung : ∀ hwnd, call ≠ .isHungAppWindow hwnd := by
    rintro hwnd rfl
    cases firm
  exact ⟨step.1.fixed bound notHung, step_still firm.reads step⟩

theorem ensures_reads {α : Type} {program : EngineM α} {post : α → DesktopState → Prop}
    {state : DesktopState} (firm : program.Only Firm)
    (holds : post (program.eval (desktop.answer state)) state) :
    desktop.environment.ensures program post state :=
  ensures_eval firm (fun _ _ _ => step_firm) holds

/-- The handle still names the window of this identity. -/
def names (desktop : Desktop) (identity : WindowIdentity) : Bool :=
  desktop.live identity.hwnd && decide (desktop.identity identity.hwnd = identity)

theorem eval_identityMatches (state : DesktopState) (identity : WindowIdentity) :
    (identityMatches identity).eval (desktop.answer state) = desktop.names identity := by
  simp only [identityMatches, ask, Program.eval_bind, Program.eval_ask, answer, names]
  by_cases alive : desktop.live identity.hwnd = true
  · by_cases samePid : desktop.pid identity.hwnd = identity.pid
    · by_cases sameClass : desktop.className identity.hwnd = identity.className
      · simp [alive, samePid, sameClass, Desktop.identity, answer]
      · have different : ¬ desktop.identity identity.hwnd = identity := by
          intro same
          exact sameClass (congrArg WindowIdentity.className same)
        simp [alive, samePid, sameClass, different, answer]
    · have different : ¬ desktop.identity identity.hwnd = identity := by
        intro same
        exact samePid (congrArg WindowIdentity.pid same)
      have otherPid : ¬ desktop.answer state (.getWindowThreadProcessId identity.hwnd) =
          identity.pid := samePid
      simp [alive, otherPid, different]
  · simp [alive]

/-- The window is in the graph as it is on the desktop, and the engine is on. -/
def targets (desktop : Desktop) (graph : WindowGraph) (pids : List Pid) (hwnd : Hwnd) : Bool :=
  desktop.enabled &&
    (graph.get hwnd).any fun node => pids.contains node.pid && desktop.names node.identity

/-- The guard of `apply_evaluation` may let the window pass. A window whose hanging is open
may be passed or not. -/
def passes (desktop : Desktop) (graph : WindowGraph) (pids : List Pid) (hwnd : Hwnd) : Bool :=
  desktop.targets graph pids hwnd && desktop.hung hwnd != some true

/-- The guard may hold the window back.  It does either at its own time for a
window that hangs and recovers. -/
def refuses (desktop : Desktop) (graph : WindowGraph) (pids : List Pid) (hwnd : Hwnd) : Bool :=
  !desktop.targets graph pids hwnd || desktop.hung hwnd != some false

theorem refuses_of_disabled (disabled : desktop.enabled = false) (graph : WindowGraph)
    (pids : List Pid) (hwnd : Hwnd) : desktop.refuses graph pids hwnd = true := by
  simp [refuses, targets, disabled]

/-- The guard is the same every time when the window hangs for good or never. -/
theorem refuses_of_steady {graph : WindowGraph} {pids : List Pid} {hwnd : Hwnd}
    (steady : (desktop.hung hwnd).isSome = true) :
    desktop.refuses graph pids hwnd = !desktop.passes graph pids hwnd := by
  obtain ⟨hung, same⟩ := Option.isSome_iff_exists.mp steady
  cases hung <;> simp [refuses, passes, same]

/-- A window that the guard lets pass, and that never starts or stops hanging, responds. -/
theorem responds_of_passes {graph : WindowGraph} {pids : List Pid} {hwnd : Hwnd}
    (steady : (desktop.hung hwnd).isSome = true)
    (passed : desktop.passes graph pids hwnd = true) : desktop.hung hwnd = some false := by
  obtain ⟨hung, same⟩ := Option.isSome_iff_exists.mp steady
  cases hung with
  | false => exact same
  | true => simp [passes, same] at passed

theorem eval_flagsAllow (state : DesktopState) :
    flagsAllow.eval (desktop.answer state) = desktop.enabled := by
  simp only [flagsAllow, ask, Program.eval_bind, Program.eval_ask, answer]
  by_cases enabled : desktop.enabled = true
  · simp [enabled, answer]
  · simp [enabled, answer]

/-- The last question of the guard. -/
theorem ensures_hung {hwnd : Hwnd} {post : Bool → DesktopState → Prop} {state : DesktopState}
    (holds : ∀ answer, (∀ hung, desktop.hung hwnd = some hung → answer = hung) →
      post answer state) :
    desktop.environment.ensures (ask (.isHungAppWindow hwnd)) post state := by
  apply ensures_ask.mpr
  intro answer after step
  rw [step_still rfl step]
  exact holds answer step.1

theorem ensures_precheck {graph : WindowGraph} {pids : List Pid} {hwnd : Hwnd}
    {state : DesktopState} :
    desktop.environment.ensures (precheck graph pids hwnd)
      (fun checked after => after = state ∧
        (checked = true → desktop.passes graph pids hwnd = true) ∧
        (checked = false → desktop.refuses graph pids hwnd = true)) state := by
  have refused : desktop.targets graph pids hwnd = false →
      desktop.refuses graph pids hwnd = true := fun missing => by simp [refuses, missing]
  apply ensures_bind.mpr
  apply ensures_reads flagsAllow_firm
  rw [eval_flagsAllow]
  cases enabled : desktop.enabled with
  | false => exact ⟨rfl, nofun, fun _ => refuses_of_disabled enabled graph pids hwnd⟩
  | true =>
      cases found : graph.get hwnd with
      | none => exact ⟨rfl, nofun, fun _ => refused (by simp [targets, found])⟩
      | some node =>
          cases wanted : pids.contains node.pid with
          | false =>
              simp only [wanted]
              exact ⟨rfl, nofun, fun _ => refused (by simp only [targets, found, wanted,
                Option.any_some, Bool.false_and, Bool.and_false])⟩
          | true =>
              simp only [wanted, Bool.not_true, Bool.false_eq_true, if_false]
              apply ensures_bind.mpr
              apply ensures_reads (identityMatches_firm node.identity)
              rw [eval_identityMatches]
              cases named : desktop.names node.identity with
              | false => exact ⟨rfl, nofun, fun _ => refused (by simp [targets, found, named])⟩
              | true =>
                  have here : desktop.targets graph pids hwnd = true := by
                    simp only [targets, enabled, found, wanted, named, Option.any_some,
                      Bool.and_self]
                  apply ensures_bind.mpr
                  apply ensures_hung
                  intro hung answers
                  refine ⟨rfl, fun passed => ?_, fun failed => ?_⟩
                  · simp only [passes, here, Bool.true_and, bne_iff_ne]
                    intro stuck
                    rw [answers true stuck] at passed
                    cases passed
                  · simp only [refuses, here, Bool.not_true, Bool.false_or, bne_iff_ne]
                    intro responds
                    rw [answers false responds] at failed
                    cases failed

theorem ensures_prechecked {graph : WindowGraph} {pids : List Pid} {hwnd : Hwnd}
    {body : EngineM Unit} {post : Unit → DesktopState → Prop} {state : DesktopState}
    (passed : desktop.passes graph pids hwnd = true →
      desktop.environment.ensures body post state)
    (skipped : desktop.refuses graph pids hwnd = true → post () state) :
    desktop.environment.ensures (prechecked graph pids hwnd body) post state := by
  apply ensures_seq ensures_precheck
  intro checked after facts
  obtain ⟨rfl, passing, refusing⟩ := facts
  cases checked with
  | true => exact passed (passing rfl)
  | false => exact skipped (refusing rfl)

variable {α : Type}

theorem ensures_show {hwnd : Hwnd} {command : ShowCommand} {post : Bool → DesktopState → Prop}
    {state : DesktopState} (holds : ∀ answer, post answer (state.setVisible hwnd command)) :
    desktop.environment.ensures (ask (.showWindow hwnd command)) post state := by
  apply ensures_ask.mpr
  intro answer after step
  obtain ⟨_, caches, rfl, rfl⟩ := step
  exact holds answer

theorem ensures_place {hwnd : Hwnd} {x y width height : Int} {flags : List SwpFlag}
    {post : Bool → DesktopState → Prop} {state : DesktopState}
    (holds : post true (state.setPlace hwnd x y width height flags)) :
    desktop.environment.ensures (ask (.setWindowPos hwnd x y width height flags)) post state := by
  apply ensures_ask.mpr
  intro answer after step
  obtain ⟨fixed, caches, rfl, rfl⟩ := step
  rw [show answer = true from fixed rfl]
  exact holds

theorem ensures_write {caches : EngineCaches} {post : Unit → DesktopState → Prop}
    {state : DesktopState} (holds : post () { state with caches := caches }) :
    desktop.environment.ensures (ask (.writeCaches caches)) post state := by
  apply ensures_ask.mpr
  intro answer after step
  obtain ⟨_, written, stepped, rfl⟩ := step
  rw [show written = caches from stepped]
  exact holds

theorem ensures_order {post : List (WindowIdentity × RestoreSnapshot) → DesktopState → Prop}
    {state : DesktopState}
    (holds : ∀ entries, entries.Perm state.caches.snapshots.pairs → post entries state) :
    desktop.environment.ensures (ask .iterateSnapshots) post state := by
  apply ensures_ask.mpr
  intro answer after step
  obtain ⟨_, caches, ⟨ordered, same⟩, rfl⟩ := step
  rw [same]
  exact holds answer ordered

theorem ensures_readCaches {post : EngineCaches → DesktopState → Prop} {state : DesktopState}
    (holds : post state.caches state) :
    desktop.environment.ensures (ask .readCaches) post state :=
  ensures_reads (ask_firm rfl) holds

theorem ensures_modifySnapshots {change : Snapshots → Snapshots}
    {post : Unit → DesktopState → Prop} {state : DesktopState}
    (holds : post ()
      { state with caches := { state.caches with snapshots := change state.caches.snapshots } }) :
    desktop.environment.ensures (modifySnapshots change) post state := by
  apply ensures_bind.mpr
  apply ensures_readCaches
  exact ensures_write holds

/-- The call leaves a fixed desktop and the caches as they are. -/
def Idle (call : Call) : Prop := call.places = false ∧ OffCaches call

theorem step_idle {call : Call} {before after : DesktopState} {answer : call.Answer}
    (idle : Idle call) (step : desktop.environment.step call before answer after) :
    after = before := by
  obtain ⟨_, caches, stepped, rfl⟩ := step
  have same := stepped.unchanged idle.2
  have still : before.effect call = before := by
    cases call <;> first | rfl | exact absurd idle.1 (by simp [Call.places])
  rw [still, same]

theorem ensures_idle {program : EngineM α} {post : α → DesktopState → Prop}
    {state : DesktopState} (idle : program.Only Idle) (holds : ∀ value, post value state) :
    desktop.environment.ensures program post state := by
  have still : desktop.environment.ensures program (fun _ after => after = state) state :=
    ensures_of_step (fun after => after = state) idle
      (fun call before answer after idle same step => (step_idle idle step).trans same) rfl
  apply ensures_mono still
  intro value after same
  rw [same]
  exact holds value

/-- What `load_tree` reads of a window it meets under a window of process `pid`. -/
def node (desktop : Desktop) (state : DesktopState) (pid : Pid) (hwnd : Hwnd) : WindowNode where
  hwnd := hwnd
  pid := pid
  className := desktop.className hwnd
  title := state.title hwnd
  structuralParent := desktop.parent hwnd
  owner :=
    if (desktop.parent hwnd).isNone && desktop.getParent hwnd ≠ 0 then
      some (desktop.getParent hwnd)
    else none
  rect := some (desktop.screenRect state.place hwnd)
  visible := desktop.shows state.visible (desktop.depth hwnd) hwnd

/-- Every node is what the desktop shows, and children are listed under their parents. -/
structure Pictures (desktop : Desktop) (state : DesktopState) (graph : WindowGraph) : Prop where
  nodes : ∀ {node}, node ∈ graph.nodes → node = desktop.node state node.pid node.hwnd
  listed : ∀ {above child}, child ∈ graph.children above → desktop.parent child = some above

theorem Pictures.get {state : DesktopState} {graph : WindowGraph} {hwnd : Hwnd}
    {found : WindowNode} (pictures : Pictures desktop state graph)
    (held : graph.get hwnd = some found) : found = desktop.node state found.pid hwnd := by
  obtain ⟨member, same⟩ := WindowGraph.get_eq_some_iff.mp held
  have pictured := pictures.nodes member
  rwa [same] at pictured

theorem Pictures.insertNode {state : DesktopState} {graph : WindowGraph} {pid : Pid} {hwnd : Hwnd}
    (pictures : Pictures desktop state graph) :
    Pictures desktop state (graph.insertNode (desktop.node state pid hwnd)) where
  nodes := by
    intro node member
    cases List.mem_cons.mp member with
    | inl same => rw [same]; rfl
    | inr earlier => exact pictures.nodes (List.mem_of_mem_filter earlier)
  listed := pictures.listed

theorem Pictures.setChildren {state : DesktopState} {graph : WindowGraph} {hwnd : Hwnd}
    {children : List Hwnd} (pictures : Pictures desktop state graph)
    (below : ∀ child ∈ children, desktop.parent child = some hwnd) :
    Pictures desktop state (graph.setChildren hwnd children) where
  nodes := pictures.nodes
  listed := by
    intro above child member
    simp only [WindowGraph.setChildren] at member
    split at member
    · rename_i same
      rw [same]
      exact below child member
    · exact pictures.listed member

theorem eval_childPairs (state : DesktopState) (descendants : List Hwnd) :
    (childPairs descendants).eval (desktop.answer state) =
      descendants.map fun child => (desktop.getParent child, child) := by
  induction descendants with
  | nil => rfl
  | cons child rest ih =>
      simp [childPairs, ask, ih, answer]

theorem eval_topLevelWindows (state : DesktopState) (pids : List Pid) (windows : List Hwnd) :
    (topLevelWindows pids windows).eval (desktop.answer state) =
      (windows.filter fun hwnd => pids.contains (desktop.pid hwnd)).map fun hwnd =>
        (hwnd, desktop.pid hwnd) := by
  induction windows with
  | nil => rfl
  | cons hwnd rest ih =>
      simp only [topLevelWindows, ask, Program.eval_bind, Program.eval_ask, answer, ih,
        Program.pure_eq, Program.eval_done, List.filter_cons]
      split
      · rfl
      · rfl

theorem eval_readNode (state : DesktopState) (hwnd : Hwnd) (pid : Pid) :
    (readNode hwnd (desktop.parent hwnd) pid).eval (desktop.answer state) =
      desktop.node state pid hwnd := by
  rfl

/-- The pairs of one enumeration name parents. -/
theorem mem_childrenOf {top hwnd child : Hwnd}
    (member : child ∈ childrenOf
      ((desktop.descendants top).map fun child => (desktop.getParent child, child)) hwnd) :
    desktop.parent child = some hwnd := by
  simp only [childrenOf, List.mem_map, List.mem_filter, decide_eq_true_eq] at member
  obtain ⟨pair, ⟨⟨below, listed, rfl⟩, same⟩, rfl⟩ := member
  have isChild := desktop.descendantsBelow top below listed
  obtain ⟨above, found⟩ := Option.isSome_iff_exists.mp isChild
  simp only [getParent, found] at same ⊢
  rw [same]

theorem loadTree_pictures {state : DesktopState} {pairs : List (Hwnd × Hwnd)} {pid : Pid}
    (below : ∀ {hwnd child}, child ∈ childrenOf pairs hwnd → desktop.parent child = some hwnd)
    (fuel : Nat) {hwnd : Hwnd} {loading : Loading}
    (pictures : Pictures desktop state loading.graph) :
    Pictures desktop state
      ((loadTree pairs pid fuel (desktop.parent hwnd) hwnd loading).eval
        (desktop.answer state)).graph := by
  induction fuel generalizing hwnd loading with
  | zero => exact pictures
  | succ fuel ih =>
      have children : ∀ (list : List Hwnd) (start : Loading),
          (∀ child ∈ list, desktop.parent child = some hwnd) →
          Pictures desktop state start.graph →
          Pictures desktop state ((loadTree.loadChildren (loadTree pairs pid fuel (some hwnd))
            list start).eval (desktop.answer state)).graph := by
        intro list
        induction list with
        | nil => exact fun _ _ held => held
        | cons child rest inner =>
            intro start listed held
            simp only [loadTree.loadChildren, Program.eval_bind]
            apply inner _ fun other member => listed other (List.mem_cons_of_mem _ member)
            rw [← listed child List.mem_cons_self]
            exact ih held
      unfold loadTree
      split
      · exact pictures
      · simp only [ask, Program.eval_bind, Program.eval_ask, answer]
        by_cases alive : desktop.live hwnd = true
        · simp only [alive, Bool.not_true, Bool.false_eq_true, if_false, Program.eval_bind,
            eval_readNode, Program.pure_eq, Program.eval_done]
          apply Pictures.setChildren
          · exact children _ _ (fun child => below) pictures.insertNode
          · exact fun child => below
        · simp only [alive]
          exact pictures

theorem loadTops_pictures {state : DesktopState} {tops : List (Hwnd × Pid)}
    (above : ∀ top ∈ tops, desktop.parent top.1 = none) {loading : Loading}
    (pictures : Pictures desktop state loading.graph) :
    Pictures desktop state ((loadTops tops loading).eval (desktop.answer state)) := by
  induction tops generalizing loading with
  | nil => exact pictures
  | cons top rest ih =>
      simp only [loadTops, childMap, ask, Program.eval_bind, Program.eval_ask, answer,
        eval_childPairs]
      apply ih fun other member => above other (List.mem_cons_of_mem _ member)
      rw [← above top List.mem_cons_self]
      exact loadTree_pictures mem_childrenOf _ pictures

/-- `build_graph` on a fixed desktop. -/
theorem buildGraph_pictures (state : DesktopState) (pids : List Pid) :
    Pictures desktop state ((buildGraph pids).eval (desktop.answer state)) := by
  have empty : Pictures desktop state (WindowGraph.empty pids) :=
    { nodes := by intro node member; cases member
      listed := by intro above child member; cases member }
  unfold buildGraph
  split
  · rename_i none
    rw [List.isEmpty_iff.mp none] at empty
    exact empty
  · simp only [ask, Program.eval_bind, Program.eval_ask, answer, eval_topLevelWindows]
    apply loadTops_pictures
    · intro top member
      simp only [List.mem_insertionSort, List.mem_map, List.mem_filter] at member
      obtain ⟨hwnd, ⟨listed, _⟩, rfl⟩ := member
      exact desktop.topsAbove hwnd listed
    · exact empty

end Desktop

end LayoutAdblock.Engine
