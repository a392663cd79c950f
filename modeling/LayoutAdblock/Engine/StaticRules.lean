import LayoutAdblock.Core.Evaluate.Effects
import LayoutAdblock.Engine.StaticDesktop

namespace LayoutAdblock.Engine

open LayoutAdblock.Core Interaction Environment

/-! # The engine on a fixed desktop

One rule for each program: what has to hold of the windows and the snapshots for
it to end well.
-/

namespace DesktopState

def book (state : DesktopState) (caches : EngineCaches) : DesktopState :=
  { state with caches := caches }

def keep (state : DesktopState) (snapshots : Snapshots) : DesktopState :=
  state.book { state.caches with snapshots := snapshots }

/-- The windows after `restore_snapshot`. -/
def placeBack (state : DesktopState) (snap : RestoreSnapshot) : DesktopState :=
  match snap.rect with
  | none => state
  | some rect =>
      if 0 < rect.width && 0 < rect.height then
        state.setPlace snap.identity.hwnd rect.left rect.top rect.width rect.height
          (if snap.topLevel then [.noZOrder, .noActivate] else [.noZOrder, .noActivate, .noMove])
      else state

/-- The window is shown, where the snapshot says that it was visible. -/
def showBack (state : DesktopState) (snap : RestoreSnapshot) : DesktopState :=
  if snap.wasVisible then state.setVisible snap.identity.hwnd .show else state

def restored (state : DesktopState) (snap : RestoreSnapshot) : DesktopState :=
  (state.placeBack snap).showBack snap

@[simp] theorem book_visible (state : DesktopState) (caches : EngineCaches) :
    (state.book caches).visible = state.visible := rfl
@[simp] theorem book_place (state : DesktopState) (caches : EngineCaches) :
    (state.book caches).place = state.place := rfl
@[simp] theorem book_caches (state : DesktopState) (caches : EngineCaches) :
    (state.book caches).caches = caches := rfl

@[simp] theorem keep_snapshots (state : DesktopState) (snapshots : Snapshots) :
    (state.keep snapshots).caches.snapshots = snapshots := rfl
@[simp] theorem keep_visible (state : DesktopState) (snapshots : Snapshots) :
    (state.keep snapshots).visible = state.visible := rfl
@[simp] theorem keep_place (state : DesktopState) (snapshots : Snapshots) :
    (state.keep snapshots).place = state.place := rfl

@[simp] theorem setVisible_caches (state : DesktopState) (hwnd : Hwnd) (command : ShowCommand) :
    (state.setVisible hwnd command).caches = state.caches := rfl
@[simp] theorem setVisible_place (state : DesktopState) (hwnd : Hwnd) (command : ShowCommand) :
    (state.setVisible hwnd command).place = state.place := rfl
@[simp] theorem setPlace_caches (state : DesktopState) (hwnd : Hwnd) (x y width height : Int)
    (flags : List SwpFlag) :
    (state.setPlace hwnd x y width height flags).caches = state.caches := rfl
@[simp] theorem setPlace_visible (state : DesktopState) (hwnd : Hwnd) (x y width height : Int)
    (flags : List SwpFlag) :
    (state.setPlace hwnd x y width height flags).visible = state.visible := rfl

@[simp] theorem setPlace_self (state : DesktopState) (hwnd : Hwnd) (x y width height : Int)
    (flags : List SwpFlag) :
    (state.setPlace hwnd x y width height flags).place hwnd =
      moved (state.place hwnd) x y width height flags := by
  simp [setPlace]

theorem setPlace_other {state : DesktopState} {hwnd other : Hwnd} {x y width height : Int}
    {flags : List SwpFlag} (different : other ≠ hwnd) :
    (state.setPlace hwnd x y width height flags).place other = state.place other := by
  simp only [setPlace, different, if_false]

@[simp] theorem placeBack_caches (state : DesktopState) (snap : RestoreSnapshot) :
    (state.placeBack snap).caches = state.caches := by
  unfold placeBack
  split
  · rfl
  · split
    · rfl
    · rfl

@[simp] theorem placeBack_visible (state : DesktopState) (snap : RestoreSnapshot) :
    (state.placeBack snap).visible = state.visible := by
  unfold placeBack
  split
  · rfl
  · split
    · rfl
    · rfl

@[simp] theorem showBack_caches (state : DesktopState) (snap : RestoreSnapshot) :
    (state.showBack snap).caches = state.caches := by
  unfold showBack
  split
  · rfl
  · rfl

@[simp] theorem showBack_place (state : DesktopState) (snap : RestoreSnapshot) :
    (state.showBack snap).place = state.place := by
  unfold showBack
  split
  · rfl
  · rfl

/-- Hiding what is hidden changes nothing. -/
theorem setVisible_hide_of_hidden {state : DesktopState} {hwnd : Hwnd}
    (hidden : state.visible hwnd = false) : state.setVisible hwnd .hide = state := by
  have same : (state.setVisible hwnd .hide).visible = state.visible := by
    funext other
    simp only [setVisible]
    split
    · rename_i isWindow
      rw [isWindow, hidden]
      rfl
    · rfl
  calc
    state.setVisible hwnd .hide =
        { state with visible := (state.setVisible hwnd .hide).visible } := rfl
    _ = state := by rw [same]

end DesktopState

namespace Desktop

variable {desktop : Desktop}

/-- What `capture_snapshot` takes of a window. -/
def snapshot (desktop : Desktop) (state : DesktopState) (hwnd : Hwnd) : RestoreSnapshot where
  identity := desktop.identity hwnd
  wasVisible := state.visible hwnd
  rect := some (desktop.screenRect state.place hwnd)
  topLevel := (desktop.parent hwnd).isNone

def remember (desktop : Desktop) (state : DesktopState) (hwnd : Hwnd) : DesktopState :=
  if desktop.identity hwnd ∈ state.caches.snapshots then state
  else state.keep
    (state.caches.snapshots.insert (desktop.identity hwnd) (desktop.snapshot state hwnd))

/-- The graph knows the windows of the desktop by their parents. -/
def Fits (desktop : Desktop) (graph : WindowGraph) : Prop :=
  ∀ {hwnd node}, graph.get hwnd = some node → node.structuralParent = desktop.parent hwnd

theorem Pictures.fits {state : DesktopState} {graph : WindowGraph}
    (pictures : Pictures desktop state graph) : desktop.Fits graph := by
  intro hwnd node found
  rw [pictures.get found]
  rfl

theorem names_identity {identity : WindowIdentity} (named : desktop.names identity = true) :
    desktop.identity identity.hwnd = identity := by
  simp only [names, Bool.and_eq_true, decide_eq_true_eq] at named
  exact named.2

/-- A window that passes the guard is in the graph under its own identity. -/
theorem node_of_passes {graph : WindowGraph} {pids : List Pid} {hwnd : Hwnd}
    (passed : desktop.passes graph pids hwnd = true) :
    ∃ node, graph.get hwnd = some node ∧ node.identity = desktop.identity hwnd ∧
      desktop.names (desktop.identity hwnd) = true := by
  simp only [passes, targets, Bool.and_eq_true, Option.any_eq_true] at passed
  obtain ⟨⟨_, node, found, checked⟩, _⟩ := passed
  have same := names_identity checked.2
  rw [WindowNode.identity_hwnd, WindowGraph.get_hwnd found] at same
  exact ⟨node, found, same.symm, same ▸ checked.2⟩

theorem ensures_rememberSnapshot {graph : WindowGraph} {pids : List Pid} {hwnd : Hwnd}
    {post : Unit → DesktopState → Prop} {state : DesktopState} (fits : desktop.Fits graph)
    (passed : desktop.passes graph pids hwnd = true)
    (holds : post () (desktop.remember state hwnd)) :
    desktop.environment.ensures (rememberSnapshot graph hwnd) post state := by
  obtain ⟨node, found, same, _⟩ := node_of_passes passed
  unfold remember at holds
  unfold rememberSnapshot
  simp only [found, same]
  apply ensures_bind.mpr
  apply ensures_readCaches
  split
  · rename_i stored
    rw [if_pos stored] at holds
    exact holds
  · rename_i unstored
    rw [if_neg unstored] at holds
    apply ensures_bind.mpr
    apply ensures_reads (captureSnapshot_firm graph hwnd)
    simp only [captureSnapshot, found, ask, Program.eval_bind, Program.eval_ask, answer,
      Program.pure_eq, Program.eval_done, same, fits found]
    apply ensures_modifySnapshots
    exact holds

theorem ensures_captureWindow {graph : WindowGraph} {pids : List Pid} {hwnd : Hwnd}
    {post : Unit → DesktopState → Prop} {state : DesktopState} (fits : desktop.Fits graph)
    (passed : desktop.passes graph pids hwnd = true → post () (desktop.remember state hwnd))
    (skipped : desktop.refuses graph pids hwnd = true → post () state) :
    desktop.environment.ensures (captureWindow graph pids hwnd) post state :=
  ensures_prechecked (fun checked => ensures_rememberSnapshot fits checked (passed checked)) skipped

theorem ensures_hideVisible {hwnd : Hwnd} {post : Unit → DesktopState → Prop}
    {state : DesktopState} (holds : post () (state.setVisible hwnd .hide)) :
    desktop.environment.ensures (hideVisible hwnd) post state := by
  apply ensures_bind.mpr
  apply ensures_reads (ask_firm rfl)
  have answered : (ask (.hasVisibleStyle hwnd)).eval (desktop.answer state) =
      state.visible hwnd := rfl
  rw [answered]
  by_cases seen : state.visible hwnd = true
  · rw [seen]
    apply ensures_bind.mpr
    apply ensures_show
    intro hidden
    split
    · exact ensures_idle (Program.only_ask.mpr ⟨rfl, by simp [OffCaches]⟩) fun _ => holds
    · exact holds
  · rw [Bool.not_eq_true] at seen
    rw [DesktopState.setVisible_hide_of_hidden seen] at holds
    rw [seen]
    exact holds

theorem ensures_resizeWindow {graph : WindowGraph} {hwnd : Hwnd} {pos : List Int}
    {isViewResize : Bool} {post : Unit → DesktopState → Prop} {state : DesktopState}
    (holds : post () (state.setPlace hwnd (wrapI32 (pos.getD 1 0)) (wrapI32 (pos.getD 2 0))
      (wrapI32 (pos.getD 3 0)) (wrapI32 (pos.getD 4 0)) (swpFlags graph hwnd isViewResize))) :
    desktop.environment.ensures (resizeWindow graph hwnd pos isViewResize) post state := by
  apply ensures_bind.mpr
  apply ensures_place
  split
  · exact ensures_idle (Program.only_ask.mpr ⟨rfl, by simp [OffCaches]⟩) fun _ => holds
  · exact holds

/-- A child window keeps its offset, and so does every resized view. -/
theorem noMove_mem_swpFlags {graph : WindowGraph} {hwnd : Hwnd} {isViewResize : Bool}
    (stays : isViewResize = true ∨
      ∃ node, graph.get hwnd = some node ∧ node.structuralParent.isSome = true) :
    SwpFlag.noMove ∈ swpFlags graph hwnd isViewResize := by
  have flagged : (isViewResize ||
      (graph.get hwnd).any fun node => node.structuralParent.isSome) = true := by
    cases stays with
    | inl isView => simp [isView]
    | inr child =>
        obtain ⟨node, found, below⟩ := child
        simp [found, below]
  unfold swpFlags
  rw [if_pos flagged]
  simp

theorem idle_of_reads {call : Call} (reads : Reads call) : Idle call :=
  ⟨stays_of_quiet reads.quiet, reads.offCaches⟩

theorem closeWindows_idle (graph : WindowGraph) (pids : List Pid) (deadline : Instant)
    (targets : List Hwnd) : (closeWindows graph pids deadline targets).Only Idle := by
  induction targets with
  | nil => trivial
  | cons hwnd rest ih =>
      apply ((precheck_reads graph pids hwnd).mono fun _ => idle_of_reads).bind
      intro checked
      split
      · exact ih
      · apply (Program.only_ask.mpr ⟨rfl, by simp [OffCaches]⟩).bind
        intro instant
        dsimp only
        split
        · trivial
        · apply ((requestClose_calls hwnd _).mono fun _ call => ⟨call.stays, call.off⟩).bind
          intro _
          exact ih

/-- No snapshot is dropped while every snapshot names its window. -/
theorem ensures_retainMatching {post : Unit → DesktopState → Prop} {state : DesktopState}
    (named : ∀ identity ∈ state.caches.snapshots, desktop.names identity = true)
    (holds : post () state) : desktop.environment.ensures retainMatching post state := by
  apply ensures_bind.mpr
  apply ensures_order
  intro entries ordered
  have each : ∀ entry ∈ entries, ∀ before, before = state → desktop.environment.ensures (do
      let same ← identityMatches entry.1
      if same then return ()
      else modifySnapshots fun snapshots => snapshots.erase entry.1)
      (fun _ after => after = state) before := by
    intro entry member before same
    apply ensures_bind.mpr
    apply ensures_reads (identityMatches_firm entry.1)
    have stored : entry.1 ∈ state.caches.snapshots := by
      obtain ⟨listed, inSnapshots, rfl⟩ := List.mem_map.mp (ordered.subset member)
      exact AList.mem_keys.mpr (List.mem_map_of_mem inSnapshots)
    rw [eval_identityMatches, named entry.1 stored]
    exact same
  apply ensures_mono (ensures_loop each rfl)
  intro _ after same
  rw [same]
  exact holds

theorem ensures_restorePosition {snap : RestoreSnapshot} {post : Bool → DesktopState → Prop}
    {state : DesktopState} (holds : post true (state.placeBack snap)) :
    desktop.environment.ensures (restoreSnapshot.restorePosition snap) post state := by
  unfold restoreSnapshot.restorePosition
  unfold DesktopState.placeBack at holds
  cases rect : snap.rect with
  | none =>
      simp only [rect] at holds ⊢
      exact holds
  | some rect =>
      simp only [rect] at holds ⊢
      split
      · rename_i positive
        rw [if_pos positive] at holds
        exact ensures_place holds
      · rename_i positive
        rw [if_neg positive] at holds
        exact holds

theorem ensures_restoreVisibility {snap : RestoreSnapshot} {post : Bool → DesktopState → Prop}
    {state : DesktopState} (holds : post true (state.showBack snap)) :
    desktop.environment.ensures (restoreSnapshot.restoreVisibility snap) post state := by
  unfold restoreSnapshot.restoreVisibility
  unfold DesktopState.showBack at holds
  split
  · rename_i wasVisible
    rw [if_pos wasVisible] at holds
    apply ensures_bind.mpr
    apply ensures_show
    intro _
    apply ensures_reads (ask_firm rfl)
    have shown : (ask (.hasVisibleStyle snap.identity.hwnd)).eval
        (desktop.answer (state.setVisible snap.identity.hwnd .show)) = true := by
      simp [ask, answer, DesktopState.setVisible]
    rw [shown]
    exact holds
  · rename_i wasHidden
    rw [if_neg wasHidden] at holds
    exact holds

/-- On a fixed desktop every restore of a window that responds succeeds. -/
theorem ensures_restoreSnapshot {snap : RestoreSnapshot} {lastError : String}
    {post : Bool × String → DesktopState → Prop} {state : DesktopState}
    (responds : desktop.hung snap.identity.hwnd = some false)
    (holds : ∀ error, post (true, error) (state.restored snap)) :
    desktop.environment.ensures (restoreSnapshot snap lastError) post state := by
  apply ensures_bind.mpr
  apply ensures_hung
  intro hung answers
  rw [answers false responds]
  apply ensures_bind.mpr
  apply ensures_restorePosition
  apply ensures_bind.mpr
  apply ensures_restoreVisibility
  exact holds _

variable {kept : DesktopState → Prop}

/-- The invariant says nothing about the stale counters. -/
def BookFree (kept : DesktopState → Prop) : Prop :=
  ∀ {state : DesktopState} {caches : EngineCaches}, kept state →
    caches.snapshots = state.caches.snapshots → caches.states = state.caches.states →
    kept (state.book caches)

theorem ensures_setStale (books : BookFree kept) (identity : WindowIdentity) (stale : StaleState)
    {state : DesktopState} (holds : kept state) :
    desktop.environment.ensures (setStale identity stale) (fun _ => kept) state := by
  apply ensures_bind.mpr
  apply ensures_readCaches
  apply ensures_write
  exact books holds rfl rfl

theorem ensures_removeStale (books : BookFree kept) (identity : WindowIdentity)
    {state : DesktopState} (holds : kept state) :
    desktop.environment.ensures (removeStale identity) (fun _ => kept) state := by
  apply ensures_bind.mpr
  apply ensures_readCaches
  apply ensures_write
  exact books holds rfl rfl

/-- A window whose restore is due is given back. -/
def GivesBack (desktop : Desktop) (matched : WindowIdentity → Bool)
    (kept : DesktopState → Prop) : Prop :=
  ∀ {state : DesktopState} {identity : WindowIdentity} {snap : RestoreSnapshot}, kept state →
    state.caches.snapshots.lookup identity = some snap → matched identity = false →
    desktop.names snap.identity = true ∧ desktop.hung snap.identity.hwnd = some false ∧
      kept ((state.keep (state.caches.snapshots.erase identity)).restored snap)

theorem ensures_restoreDue {matched : WindowIdentity → Bool} {identity : WindowIdentity}
    {lastError : String} {state : DesktopState} (books : BookFree kept)
    (gives : desktop.GivesBack matched kept) (unmatched : matched identity = false)
    (holds : kept state) :
    desktop.environment.ensures (restoreDue identity lastError) (fun _ => kept) state := by
  apply ensures_bind.mpr
  apply ensures_readCaches
  cases found : state.caches.snapshots.lookup identity with
  | none =>
      dsimp only
      exact ensures_seq (ensures_removeStale books identity holds) fun _ _ held => held
  | some snap =>
      obtain ⟨named, responds, given⟩ := gives holds found unmatched
      dsimp only
      apply ensures_bind.mpr
      apply ensures_modifySnapshots
      apply ensures_bind.mpr
      apply ensures_reads (identityMatches_firm snap.identity)
      rw [eval_identityMatches, named]
      apply ensures_bind.mpr
      apply ensures_restoreSnapshot responds
      intro error
      exact ensures_seq (ensures_removeStale books identity given) fun _ _ held => held

theorem ensures_restoreStaleWindow {matched : WindowIdentity → Bool} {identity : WindowIdentity}
    {lastError : String} {state : DesktopState} (books : BookFree kept)
    (gives : desktop.GivesBack matched kept) (holds : kept state) :
    desktop.environment.ensures (restoreStaleWindow matched identity lastError) (fun _ => kept)
      state := by
  unfold restoreStaleWindow
  split
  · exact ensures_seq (ensures_removeStale books identity holds) fun _ _ held => held
  · rename_i unmatched
    apply ensures_bind.mpr
    apply ensures_readCaches
    apply ensures_seq (ensures_setStale books identity _ holds)
    intro _ after held
    split
    · exact ensures_restoreDue books gives (by simpa using unmatched) held
    · exact held

theorem ensures_restoreStaleHidden {matched : WindowIdentity → Bool} {state : DesktopState}
    (books : BookFree kept) (gives : desktop.GivesBack matched kept) (holds : kept state) :
    desktop.environment.ensures (restoreStaleHidden matched) (fun _ => kept) state := by
  have windows : ∀ (pending : List WindowIdentity) (lastError : String) (before : DesktopState),
      kept before → desktop.environment.ensures (restoreStaleWindows matched pending lastError)
        (fun _ => kept) before := by
    intro pending
    induction pending with
    | nil => exact fun _ _ held => held
    | cons identity rest ih =>
        intro lastError before held
        apply ensures_seq (ensures_restoreStaleWindow books gives held)
        intro error after held
        exact ih error after held
  apply ensures_bind.mpr
  apply ensures_order
  intro entries _
  apply ensures_seq (windows _ _ _ holds)
  intro lastError after held
  apply ensures_bind.mpr
  apply ensures_readCaches
  exact held

/-- What each pass of `apply_evaluation` has to keep; `kept` relates the positions
that are left to the state.  Windows are stored before they are made small, and
before they are hidden unless the guard could have held the capture back. -/
structure Acts (desktop : Desktop) (graph : WindowGraph) (evaluation : Evaluation)
    (pids : List Pid) (kept : List (List Int) → DesktopState → Prop) : Prop where
  capture : ∀ {hwnd rest state}, hwnd ∈ captureTargets evaluation →
    desktop.passes graph pids hwnd = true → kept rest state →
    kept rest (desktop.remember state hwnd)
  hide : ∀ {hwnd state}, hwnd ∈ evaluation.actions.hide →
    (desktop.refuses graph pids hwnd = false →
      desktop.identity hwnd ∈ state.caches.snapshots) →
    desktop.passes graph pids hwnd = true → kept evaluation.actions.setPos state →
    kept evaluation.actions.setPos (state.setVisible hwnd .hide)
  resize : ∀ {pos rest state}, pos ∈ evaluation.actions.setPos → kept (pos :: rest) state →
    desktop.passes graph pids (pos.getD 0 0) = true → 0 < pos.getD 3 0 → 0 < pos.getD 4 0 →
    kept rest (state.setPlace (pos.getD 0 0) (wrapI32 (pos.getD 1 0)) (wrapI32 (pos.getD 2 0))
      (wrapI32 (pos.getD 3 0)) (wrapI32 (pos.getD 4 0)) (swpFlags graph (pos.getD 0 0) true))
  zero : ∀ {pos rest state}, pos ∈ evaluation.actions.setPos → kept (pos :: rest) state →
    desktop.passes graph pids (pos.getD 0 0) = true → zeroSizes pos = true →
    desktop.identity (pos.getD 0 0) ∈ state.caches.snapshots →
    kept rest (state.setPlace (pos.getD 0 0) (wrapI32 (pos.getD 1 0)) (wrapI32 (pos.getD 2 0))
      (wrapI32 (pos.getD 3 0)) (wrapI32 (pos.getD 4 0)) (swpFlags graph (pos.getD 0 0) false))
  skip : ∀ {pos rest state}, kept (pos :: rest) state →
    (0 < pos.getD 3 0 → 0 < pos.getD 4 0 →
      desktop.refuses graph pids (pos.getD 0 0) = true) →
    kept rest state
  named : ∀ {identity state}, kept [] state → identity ∈ state.caches.snapshots →
    desktop.names identity = true

theorem mem_remember {state : DesktopState} {hwnd : Hwnd} :
    desktop.identity hwnd ∈ (desktop.remember state hwnd).caches.snapshots := by
  unfold remember
  split
  · assumption
  · rw [DesktopState.keep_snapshots]
    exact (AList.mem_insert _).mpr (Or.inl rfl)

theorem remember_grows {state : DesktopState} {hwnd : Hwnd} {identity : WindowIdentity}
    (stored : identity ∈ state.caches.snapshots) :
    identity ∈ (desktop.remember state hwnd).caches.snapshots := by
  unfold remember
  split
  · exact stored
  · rw [DesktopState.keep_snapshots]
    exact (AList.mem_insert _).mpr (Or.inr stored)

/-- Every target that the guard lets pass for sure is stored, or still to be
captured. -/
def Ready (desktop : Desktop) (graph : WindowGraph) (evaluation : Evaluation) (pids : List Pid)
    (rest : List Hwnd) (state : DesktopState) : Prop :=
  ∀ hwnd ∈ captureTargets evaluation, desktop.refuses graph pids hwnd = false →
    hwnd ∈ rest ∨ desktop.identity hwnd ∈ state.caches.snapshots

section Ready

variable {graph : WindowGraph} {evaluation : Evaluation} {pids : List Pid} {rest : List Hwnd}
  {hwnd : Hwnd} {state : DesktopState}

theorem Ready.remember (ready : Ready desktop graph evaluation pids (hwnd :: rest) state) :
    Ready desktop graph evaluation pids rest (desktop.remember state hwnd) := by
  intro other target certain
  cases ready _ target certain with
  | inl listed =>
      cases List.mem_cons.mp listed with
      | inl same => rw [same]; exact Or.inr mem_remember
      | inr later => exact Or.inl later
  | inr stored => exact Or.inr (remember_grows stored)

theorem Ready.remembers (ready : Ready desktop graph evaluation pids rest state) :
    Ready desktop graph evaluation pids rest (desktop.remember state hwnd) :=
  fun other target certain => (ready other target certain).imp_right remember_grows

theorem Ready.skip (ready : Ready desktop graph evaluation pids (hwnd :: rest) state)
    (refused : desktop.refuses graph pids hwnd = true) :
    Ready desktop graph evaluation pids rest state := by
  intro other target certain
  cases ready _ target certain with
  | inl listed =>
      cases List.mem_cons.mp listed with
      | inl same => rw [same, refused] at certain; cases certain
      | inr later => exact Or.inl later
  | inr stored => exact Or.inr stored

theorem Ready.stored (ready : Ready desktop graph evaluation pids [] state)
    (target : hwnd ∈ captureTargets evaluation)
    (certain : desktop.refuses graph pids hwnd = false) :
    desktop.identity hwnd ∈ state.caches.snapshots := by
  cases ready _ target certain with
  | inl listed => cases listed
  | inr stored => exact stored

end Ready

theorem mem_captureTargets_zero {evaluation : Evaluation} {pos : List Int}
    (member : pos ∈ evaluation.actions.setPos) (zero : zeroSizes pos = true) :
    pos.getD 0 0 ∈ captureTargets evaluation :=
  List.mem_append_right _ (List.mem_map_of_mem (List.mem_filter.mpr ⟨member, zero⟩))

def Capturing (desktop : Desktop) (graph : WindowGraph) (evaluation : Evaluation)
    (pids : List Pid) (kept : List (List Int) → DesktopState → Prop) (rest : List Hwnd)
    (state : DesktopState) : Prop :=
  (∀ hwnd ∈ rest, hwnd ∈ captureTargets evaluation) ∧
    Ready desktop graph evaluation pids rest state ∧ kept evaluation.actions.setPos state

def Positioning (desktop : Desktop) (graph : WindowGraph) (evaluation : Evaluation)
    (pids : List Pid) (kept : List (List Int) → DesktopState → Prop) (rest : List (List Int))
    (state : DesktopState) : Prop :=
  (∀ pos ∈ rest, pos ∈ evaluation.actions.setPos) ∧
    Ready desktop graph evaluation pids [] state ∧ kept rest state

section Passes

variable {graph : WindowGraph} {evaluation : Evaluation} {pids : List Pid}
  {kept : List (List Int) → DesktopState → Prop}

/-- A disabled engine skips every position. -/
theorem Acts.skipAll (acts : desktop.Acts graph evaluation pids kept)
    (disabled : desktop.enabled = false) {rest : List (List Int)} {state : DesktopState}
    (holds : kept rest state) : kept [] state := by
  induction rest with
  | nil => exact holds
  | cons pos rest ih =>
      exact ih (acts.skip holds fun _ _ => refuses_of_disabled disabled graph pids _)

theorem ensures_positionWindow (acts : desktop.Acts graph evaluation pids kept)
    (fits : desktop.Fits graph) {pos : List Int} {rest : List (List Int)} {state : DesktopState}
    (member : pos ∈ evaluation.actions.setPos)
    (ready : Ready desktop graph evaluation pids [] state) (holds : kept (pos :: rest) state) :
    desktop.environment.ensures (positionWindow graph pids pos)
      (fun _ after => Ready desktop graph evaluation pids [] after ∧ kept rest after) state := by
  unfold positionWindow
  split
  · rename_i short
    refine ⟨ready, acts.skip holds ?_⟩
    intro _ high
    have missing : pos.getD 4 0 = 0 := by
      rw [List.getD_eq_getElem?_getD, List.getElem?_eq_none (by omega)]
      rfl
    omega
  · apply ensures_prechecked
    · intro passed
      unfold positionChecked
      split
      · rename_i positive
        simp only [Bool.and_eq_true, decide_eq_true_eq] at positive
        apply ensures_resizeWindow
        exact ⟨ready, acts.resize member holds passed positive.1 positive.2⟩
      · rename_i long nonPositive
        simp only [Bool.and_eq_true, decide_eq_true_eq] at nonPositive
        have zero : zeroSizes pos = true := by
          simp only [zeroSizes, Bool.and_eq_true, Bool.or_eq_true, decide_eq_true_eq]
          omega
        split
        · exact ⟨ready, acts.skip holds fun wide high => absurd ⟨wide, high⟩ nonPositive⟩
        · apply ensures_bind.mpr
          apply ensures_rememberSnapshot fits passed
          apply ensures_resizeWindow
          have remembered := acts.capture (mem_captureTargets_zero member zero) passed holds
          exact ⟨ready.remembers, acts.zero member remembered passed zero mem_remember⟩
    · intro refused
      exact ⟨ready, acts.skip holds fun _ _ => refused⟩

/-- `apply_evaluation`: capture every target first, then act. -/
theorem ensures_applyEvaluation {state : DesktopState}
    (acts : desktop.Acts graph evaluation pids kept) (fits : desktop.Fits graph)
    (holds : kept evaluation.actions.setPos state) :
    desktop.environment.ensures (applyEvaluation graph evaluation pids) (fun _ => kept [])
      state := by
  apply ensures_bind.mpr
  apply ensures_reads flagsAllow_firm
  rw [eval_flagsAllow]
  split
  · rename_i refused
    exact acts.skipAll (by simpa using refused) holds
  have captures : ∀ hwnd rest before,
      Capturing desktop graph evaluation pids kept (hwnd :: rest) before →
      desktop.environment.ensures (captureWindow graph pids hwnd)
        (fun _ => Capturing desktop graph evaluation pids kept rest) before := by
    intro hwnd rest before held
    obtain ⟨targets, ready, holds⟩ := held
    have others := fun other member => targets other (List.mem_cons_of_mem hwnd member)
    apply ensures_captureWindow fits
    · intro passed
      exact ⟨others, ready.remember, acts.capture (targets hwnd List.mem_cons_self) passed holds⟩
    · intro failed
      exact ⟨others, ready.skip failed, holds⟩
  apply ensures_seq (ensures_forEach captures
    ⟨fun _ member => member, fun _ target _ => Or.inl target, holds⟩)
  intro _ afterCapture captured
  have hides : ∀ hwnd ∈ evaluation.actions.hide, ∀ before,
      (Ready desktop graph evaluation pids [] before ∧
        kept evaluation.actions.setPos before) →
      desktop.environment.ensures (hideWindow graph pids hwnd)
        (fun _ after => Ready desktop graph evaluation pids [] after ∧
          kept evaluation.actions.setPos after) before := by
    intro hwnd member before held
    apply ensures_prechecked
    · intro passed
      apply ensures_hideVisible
      have stored := held.1.stored (List.mem_append_left _ member)
      exact ⟨held.1, acts.hide member stored passed held.2⟩
    · intro _
      exact held
  apply ensures_seq (ensures_loop hides captured.2)
  intro _ afterHide held
  have places : ∀ pos rest before,
      Positioning desktop graph evaluation pids kept (pos :: rest) before →
      desktop.environment.ensures (positionWindow graph pids pos)
        (fun _ => Positioning desktop graph evaluation pids kept rest) before := by
    intro pos rest before held
    obtain ⟨members, ready, holds⟩ := held
    apply ensures_mono
      (ensures_positionWindow acts fits (members pos List.mem_cons_self) ready holds)
    intro _ after positioned
    exact ⟨fun other member => members other (List.mem_cons_of_mem _ member), positioned⟩
  apply ensures_seq (ensures_forEach places ⟨fun _ member => member, held⟩)
  intro _ afterPlace held
  apply ensures_bind.mpr
  apply ensures_idle (Program.only_ask.mpr ⟨rfl, by simp [OffCaches]⟩)
  intro started
  apply ensures_bind.mpr
  apply ensures_idle (closeWindows_idle graph pids _ _)
  intro _
  split
  · exact held.2.2
  · exact ensures_retainMatching (fun _ => acts.named held.2.2) held.2.2

end Passes

/-- What a tick does with its evaluation. -/
theorem ensures_applyAndRestore {graph : WindowGraph} {evaluation : Evaluation}
    {pids : List Pid} {state : DesktopState}
    (applied : desktop.environment.ensures (applyEvaluation graph evaluation pids)
      (fun _ => kept) state)
    (books : BookFree kept) (gives : desktop.GivesBack (matchedIdentity graph evaluation) kept) :
    desktop.environment.ensures (applyAndRestore graph evaluation pids) (fun _ => kept)
      state := by
  apply ensures_seq applied
  intro _ afterApply held
  apply ensures_bind.mpr
  apply ensures_readCaches
  split
  · exact held
  · apply ensures_seq (ensures_restoreStaleHidden books gives held)
    intro result after held
    exact ensures_idle (Program.only_ask.mpr ⟨rfl, by simp [OffCaches]⟩) fun _ => held

/-- The same snapshots, and the same candidate states for the windows of the
graph; other states may be dropped. -/
structure Tidied (graph : WindowGraph) (before after : EngineCaches) : Prop where
  snapshots : after.snapshots = before.snapshots
  states : ∀ {node}, node ∈ graph.nodes → after.states node.identity = before.states node.identity
  dropped : ∀ identity, after.states identity = before.states identity ∨
    after.states identity = none

theorem Tidied.refl (graph : WindowGraph) (caches : EngineCaches) : Tidied graph caches caches where
  snapshots := rfl
  states := fun _ => rfl
  dropped := fun _ => Or.inl rfl

theorem Tidied.trans {graph : WindowGraph} {first second third : EngineCaches}
    (left : Tidied graph first second) (right : Tidied graph second third) :
    Tidied graph first third where
  snapshots := right.snapshots.trans left.snapshots
  states := fun member => (right.states member).trans (left.states member)
  dropped := by
    intro identity
    cases right.dropped identity with
    | inl same => rw [same]; exact left.dropped identity
    | inr gone => exact Or.inr gone

theorem prune_tidied (graph : WindowGraph) (caches : EngineCaches) :
    Tidied graph caches (caches.prune graph) where
  snapshots := rfl
  states := by
    intro node member
    have known : (graph.nodes.any fun other => decide (other.identity = node.identity)) = true :=
      List.any_eq_true.mpr ⟨node, member, by simp⟩
    simp only [EngineCaches.prune, known, Bool.true_or, if_true]
  dropped := by
    intro identity
    simp only [EngineCaches.prune]
    split
    · exact Or.inl rfl
    · exact Or.inr rfl

theorem ensures_cleanUp {interval : Nat} {graph : WindowGraph}
    {post : Unit → DesktopState → Prop} {state : DesktopState}
    (holds : ∀ caches, Tidied graph state.caches caches → post () (state.book caches)) :
    desktop.environment.ensures (cleanUp interval graph) post state := by
  have kept := holds state.caches (Tidied.refl graph state.caches)
  have restart : desktop.environment.ensures (cleanupDue.restart state.caches)
      (fun _ after => ∃ caches, Tidied graph state.caches caches ∧ after = state.book caches)
      state := by
    apply ensures_bind.mpr
    apply ensures_idle (Program.only_ask.mpr ⟨rfl, by simp [OffCaches]⟩)
    intro instant
    apply ensures_bind.mpr
    apply ensures_write
    exact ⟨{ state.caches with lastCleanup := some instant },
      ⟨rfl, fun _ => rfl, fun _ => Or.inl rfl⟩, rfl⟩
  have due : desktop.environment.ensures (cleanupDue interval)
      (fun _ after => ∃ caches, Tidied graph state.caches caches ∧ after = state.book caches)
      state := by
    apply ensures_bind.mpr
    apply ensures_readCaches
    cases state.caches.lastCleanup with
    | none => exact restart
    | some last =>
        apply ensures_bind.mpr
        apply ensures_idle (Program.only_ask.mpr ⟨rfl, by simp [OffCaches]⟩)
        intro instant
        split
        · exact ⟨state.caches, Tidied.refl graph state.caches, rfl⟩
        · exact restart
  apply ensures_seq due
  intro cleanup after found
  obtain ⟨caches, tidied, rfl⟩ := found
  split
  · apply ensures_bind.mpr
    apply ensures_readCaches
    apply ensures_write
    exact holds _ (tidied.trans (prune_tidied graph caches))
  · exact holds caches tidied

variable [Unicode]

def graphOf (desktop : Desktop) (state : DesktopState) (pids : List Pid) : WindowGraph :=
  (buildGraph pids).eval (desktop.answer state)

def core (desktop : Desktop) (state : DesktopState) : LayoutSettings where
  enabled := desktop.enabled
  aggressiveMode := state.aggressive

/-- What an evaluation finds on the screen as it is. -/
def evaluated (desktop : Desktop) (state : DesktopState) (pids : List Pid)
    (rules : LayoutRules) (withCandidates : Bool) : Evaluation × StateMap :=
  evaluateInner (desktop.graphOf state pids) (desktop.core state) rules state.caches.states
    withCandidates

theorem evaluated_states (state : DesktopState) (pids : List Pid) (rules : LayoutRules)
    (withCandidates : Bool) :
    (desktop.evaluated state pids rules withCandidates).2 =
      (desktop.evaluated state pids rules false).2 := by
  simp only [evaluated, evaluate_states]

/-- The caches after the evaluation and the cleanup of a tick. -/
abbrev Evaluated (desktop : Desktop) (state : DesktopState) (pids : List Pid)
    (rules : LayoutRules) (caches : EngineCaches) : Prop :=
  Tidied (desktop.graphOf state pids)
    { state.caches with states := (desktop.evaluated state pids rules false).2 } caches

theorem ensures_evaluateTick {graph : WindowGraph} {core : LayoutSettings} {rules : LayoutRules}
    {applyMode : Bool} {post : Evaluation → DesktopState → Prop} {state : DesktopState}
    (holds : post (evaluateInner graph core rules state.caches.states (!applyMode)).1
      (state.book { state.caches with
        states := (evaluateInner graph core rules state.caches.states (!applyMode)).2 })) :
    desktop.environment.ensures (evaluateTick graph core rules applyMode) post state := by
  apply ensures_bind.mpr
  apply ensures_readCaches
  cases applyMode with
  | true => exact ensures_bind.mpr (ensures_write holds)
  | false => exact ensures_bind.mpr (ensures_write holds)

theorem ensures_tick {pids : List Pid} {settings : AppSettings} {rules : LayoutRules}
    {post : Evaluation → DesktopState → Prop} {state : DesktopState}
    (idle : pids = [] → post {} state)
    (acts : desktop.enabled = true → ∀ caches, Evaluated desktop state pids rules caches →
      desktop.environment.ensures
        (applyAndRestore (desktop.graphOf state pids)
          (desktop.evaluated state pids rules false).1 pids)
        (fun _ => post (desktop.evaluated state pids rules false).1) (state.book caches))
    (off : desktop.enabled = false → ∀ caches, Evaluated desktop state pids rules caches →
      post (desktop.evaluated state pids rules true).1 (state.book caches)) :
    desktop.environment.ensures (tick pids settings rules) post state := by
  apply ensures_bind.mpr
  apply ensures_reads (ask_firm rfl)
  apply ensures_bind.mpr
  apply ensures_reads (ask_firm rfl)
  apply ensures_bind.mpr
  apply ensures_readCaches
  split
  · rename_i nothing
    simp only [Bool.and_eq_true, List.isEmpty_iff] at nothing
    exact idle nothing.1
  · apply ensures_bind.mpr
    apply ensures_reads (buildGraph_firm pids)
    apply ensures_bind.mpr
    apply ensures_reads (ask_firm rfl)
    have answered : (ask (.load .apply)).eval (desktop.answer state) = true := rfl
    have switch : (ask (.load .enabled)).eval (desktop.answer state) = desktop.enabled := rfl
    rw [answered, switch, Bool.true_and]
    apply ensures_bind.mpr
    apply ensures_evaluateTick
    apply ensures_bind.mpr
    apply ensures_idle (Program.only_ask.mpr ⟨rfl, by simp [OffCaches]⟩)
    intro _
    apply ensures_bind.mpr
    apply ensures_cleanUp
    intro caches tidied
    have evaluated : Evaluated desktop state pids rules caches := by
      rw [Evaluated, ← evaluated_states state pids rules (!desktop.enabled)]
      exact tidied
    unfold actOn
    split
    · rename_i on
      have withoutCandidates : (!desktop.enabled) = false := by rw [on]; rfl
      rw [withoutCandidates]
      exact ensures_seq (acts on caches evaluated) fun _ _ held => held
    · rename_i refused
      have disabled : desktop.enabled = false := by simpa using refused
      have withCandidates : (!desktop.enabled) = true := by rw [disabled]; rfl
      rw [withCandidates]
      apply ensures_bind.mpr
      apply ensures_idle
      · exact Program.Only.forEach (fun _ => Program.only_ask.mpr ⟨rfl, by simp [OffCaches]⟩) _
      · intro _
        exact off disabled caches evaluated

end Desktop

end LayoutAdblock.Engine
