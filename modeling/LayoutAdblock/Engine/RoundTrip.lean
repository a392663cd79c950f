import LayoutAdblock.Core.Evaluate.Effects
import LayoutAdblock.Engine.StaticRules

namespace LayoutAdblock.Engine

open LayoutAdblock.Core Interaction Environment

/-! # The windows come back

On a fixed desktop whose titles change, a drain after any number of ticks gives
every window back what the engine took from it.
-/

/-- Both sides are positive, and no longer than a saturating difference can tell. -/
structure Place.Sized (place : Place) : Prop where
  width : 0 < place.width
  widthFits : place.width ≤ 2147483647
  height : 0 < place.height
  heightFits : place.height ≤ 2147483647

namespace Desktop

variable {desktop : Desktop} {start : DesktopState} {resized : List Hwnd}

/-- The snapshot holds what the window was like at the start: its visibility, the size it
had unless a tick has resized it since, and for a top-level window its position as well. -/
structure Faithful (desktop : Desktop) (start : DesktopState) (resized : List Hwnd)
    (snap : RestoreSnapshot) : Prop where
  named : desktop.names snap.identity = true
  responds : desktop.hung snap.identity.hwnd = some false
  topLevel : snap.topLevel = (desktop.parent snap.identity.hwnd).isNone
  wasVisible : snap.wasVisible = start.visible snap.identity.hwnd
  rect : snap.identity.hwnd ∉ resized → (start.place snap.identity.hwnd).Sized →
    ∃ rect, snap.rect = some rect ∧
      rect.width = (start.place snap.identity.hwnd).width ∧
      rect.height = (start.place snap.identity.hwnd).height ∧
      (desktop.parent snap.identity.hwnd = none →
        rect.left = (start.place snap.identity.hwnd).x ∧
          rect.top = (start.place snap.identity.hwnd).y)

/-- The window is as it was at the start, in its visibility and, unless a tick has resized
it, in its position and size. -/
structure Untouched (start : DesktopState) (resized : List Hwnd) (state : DesktopState)
    (hwnd : Hwnd) : Prop where
  visible : state.visible hwnd = start.visible hwnd
  place : hwnd ∉ resized → (start.place hwnd).Sized → state.place hwnd = start.place hwnd

/-- Every window is as it was at the start, or a faithful snapshot of it is stored
or pending.  Hidden windows stay hidden and child windows keep their offset. -/
structure Kept (desktop : Desktop) (start : DesktopState) (resized : List Hwnd)
    (pending : List RestoreSnapshot) (state : DesktopState) : Prop where
  stored : ∀ {identity snap}, state.caches.snapshots.lookup identity = some snap →
    snap.identity = identity ∧ Faithful desktop start resized snap
  waiting : ∀ {snap}, snap ∈ pending → Faithful desktop start resized snap
  untouched : ∀ {hwnd}, desktop.identity hwnd ∉ state.caches.snapshots →
    (∀ snap ∈ pending, snap.identity ≠ desktop.identity hwnd) →
    Untouched start resized state hwnd
  dimmed : ∀ {hwnd}, state.visible hwnd = true → start.visible hwnd = true
  anchored : ∀ {hwnd}, (desktop.parent hwnd).isSome = true →
    (state.place hwnd).x = (start.place hwnd).x ∧ (state.place hwnd).y = (start.place hwnd).y

theorem Kept.fresh (fresh : start.caches.snapshots = ∅) : Kept desktop start [] [] start where
  stored := by
    intro identity snap found
    rw [fresh] at found
    cases found
  waiting := by
    intro snap member
    cases member
  untouched := fun _ _ => ⟨rfl, fun _ _ => rfl⟩
  dimmed := fun visible => visible
  anchored := fun _ => ⟨rfl, rfl⟩

theorem Faithful.weaken {more : List Hwnd} {snap : RestoreSnapshot}
    (faithful : Faithful desktop start resized snap) (subset : ∀ hwnd ∈ resized, hwnd ∈ more) :
    Faithful desktop start more snap :=
  { faithful with rect := fun unresized => faithful.rect fun member => unresized (subset _ member) }

theorem Kept.weaken {more : List Hwnd} {pending : List RestoreSnapshot} {state : DesktopState}
    (kept : Kept desktop start resized pending state) (subset : ∀ hwnd ∈ resized, hwnd ∈ more) :
    Kept desktop start more pending state where
  stored := by
    intro identity snap found
    obtain ⟨same, faithful⟩ := kept.stored found
    exact ⟨same, faithful.weaken subset⟩
  waiting := fun member => (kept.waiting member).weaken subset
  untouched := by
    intro hwnd unstored free
    have before := kept.untouched unstored free
    exact ⟨before.visible, fun unresized => before.place fun member => unresized (subset _ member)⟩
  dimmed := kept.dimmed
  anchored := kept.anchored

theorem Kept.book {pending : List RestoreSnapshot} {state : DesktopState} {caches : EngineCaches}
    (kept : Kept desktop start resized pending state)
    (same : caches.snapshots = state.caches.snapshots) :
    Kept desktop start resized pending (state.book caches) where
  stored := by
    intro identity snap found
    rw [DesktopState.book_caches, same] at found
    exact kept.stored found
  waiting := kept.waiting
  untouched := by
    intro hwnd unstored free
    rw [DesktopState.book_caches, same] at unstored
    exact ⟨(kept.untouched unstored free).visible, (kept.untouched unstored free).place⟩
  dimmed := kept.dimmed
  anchored := kept.anchored

theorem Place.Sized.clamped_width {place : Place} (sized : place.Sized) :
    clampI32 place.width = place.width := by
  have positive := sized.width
  have fits := sized.widthFits
  unfold clampI32
  omega

theorem Place.Sized.clamped_height {place : Place} (sized : place.Sized) :
    clampI32 place.height = place.height := by
  have positive := sized.height
  have fits := sized.heightFits
  unfold clampI32
  omega

/-- A snapshot of an untouched window is faithful, whatever happened to other
windows: of a child's rectangle only the size is used. -/
theorem snapshot_faithful {state : DesktopState} {hwnd : Hwnd}
    (named : desktop.names (desktop.identity hwnd) = true)
    (responds : desktop.hung hwnd = some false)
    (untouched : Untouched start resized state hwnd) :
    Faithful desktop start resized (desktop.snapshot state hwnd) where
  named := named
  responds := responds
  topLevel := rfl
  wasVisible := untouched.visible
  rect := by
    intro unresized sized
    have same : state.place hwnd = start.place hwnd := untouched.place unresized sized
    have stillSized : (state.place hwnd).Sized := same ▸ sized
    refine ⟨_, rfl, ?_, ?_, ?_⟩
    · rw [screenRect_width, Place.Sized.clamped_width stillSized]
      exact congrArg Place.width same
    · rw [screenRect_height, Place.Sized.clamped_height stillSized]
      exact congrArg Place.height same
    · intro top
      have corner : desktop.origin state.place (desktop.depth hwnd) hwnd =
          ((state.place hwnd).x, (state.place hwnd).y) := origin_top _ _ top
      rw [same] at corner
      exact ⟨congrArg Prod.fst corner, congrArg Prod.snd corner⟩

theorem Kept.remember {state : DesktopState} {hwnd : Hwnd}
    (kept : Kept desktop start resized [] state)
    (named : desktop.names (desktop.identity hwnd) = true)
    (responds : desktop.hung hwnd = some false) :
    Kept desktop start resized [] (desktop.remember state hwnd) := by
  unfold Desktop.remember
  split
  · exact kept
  · rename_i unstored
    have faithful := snapshot_faithful named responds (kept.untouched unstored (by simp))
    exact
      { stored := by
          intro identity snap found
          rw [DesktopState.keep_snapshots] at found
          by_cases same : identity = desktop.identity hwnd
          · rw [same, AList.lookup_insert] at found
            rw [← Option.some.inj found]
            exact ⟨same.symm, faithful⟩
          · rw [AList.lookup_insert_ne same] at found
            exact kept.stored found
        waiting := kept.waiting
        untouched := by
          intro other free _
          rw [DesktopState.keep_snapshots, AList.mem_insert, not_or] at free
          have before := kept.untouched free.2 (by simp)
          exact ⟨before.visible, before.place⟩
        dimmed := kept.dimmed
        anchored := kept.anchored }

theorem Kept.hide {pending : List RestoreSnapshot} {state : DesktopState} {hwnd : Hwnd}
    (kept : Kept desktop start resized pending state)
    (stored : desktop.identity hwnd ∈ state.caches.snapshots) :
    Kept desktop start resized pending (state.setVisible hwnd .hide) where
  stored := kept.stored
  waiting := kept.waiting
  untouched := by
    intro other unstored free
    have different : other ≠ hwnd := by
      intro same
      exact unstored (same ▸ stored)
    have before := kept.untouched unstored free
    refine ⟨?_, before.place⟩
    simp only [DesktopState.setVisible, different, if_false]
    exact before.visible
  dimmed := by
    intro other visible
    simp only [DesktopState.setVisible] at visible
    split at visible
    · simp at visible
    · exact kept.dimmed visible
  anchored := kept.anchored

/-- A stored or pending window, or one that is resized, may get any size. -/
theorem Kept.place {pending : List RestoreSnapshot} {state : DesktopState} {hwnd : Hwnd}
    {x y width height : Int} {flags : List SwpFlag}
    (kept : Kept desktop start resized pending state)
    (excused : desktop.identity hwnd ∈ state.caches.snapshots ∨
      (∃ snap ∈ pending, snap.identity = desktop.identity hwnd) ∨ hwnd ∈ resized)
    (stays : (desktop.parent hwnd).isSome = true → SwpFlag.noMove ∈ flags) :
    Kept desktop start resized pending (state.setPlace hwnd x y width height flags) where
  stored := kept.stored
  waiting := kept.waiting
  untouched := by
    intro other unstored free
    have before := kept.untouched unstored free
    refine ⟨before.visible, ?_⟩
    intro unresized sized
    have different : other ≠ hwnd := by
      intro same
      subst same
      rcases excused with inStore | ⟨snap, member, isWindow⟩ | wasResized
      · exact unstored inStore
      · exact free snap member isWindow
      · exact unresized wasResized
    simp only [DesktopState.setPlace, different, if_false]
    exact before.place unresized sized
  dimmed := kept.dimmed
  anchored := by
    intro other child
    simp only [DesktopState.setPlace]
    split
    · rename_i same
      subst same
      have flagged : flags.contains SwpFlag.noMove = true := by simpa using stays child
      simp only [DesktopState.moved, flagged, if_true]
      exact kept.anchored child
    · exact kept.anchored child

theorem Faithful.flags {snap : RestoreSnapshot} (faithful : Faithful desktop start resized snap)
    (child : (desktop.parent snap.identity.hwnd).isSome = true) :
    SwpFlag.noMove ∈ (if snap.topLevel then [.noZOrder, .noActivate]
      else [.noZOrder, .noActivate, .noMove] : List SwpFlag) := by
  have below : snap.topLevel = false := by
    rw [faithful.topLevel]
    simpa using child
  simp [below]

theorem Kept.placeBack {pending : List RestoreSnapshot} {state : DesktopState}
    {snap : RestoreSnapshot} (kept : Kept desktop start resized pending state)
    (member : snap ∈ pending) : Kept desktop start resized pending (state.placeBack snap) := by
  have faithful := kept.waiting member
  unfold DesktopState.placeBack
  split
  · exact kept
  · split
    · apply kept.place (Or.inr (Or.inl ⟨snap, member, ?_⟩)) faithful.flags
      exact (names_identity faithful.named).symm
    · exact kept

/-- A window is given back its size, and a top-level window its position; a child
never lost it. -/
theorem placeBack_place {pending : List RestoreSnapshot} {state : DesktopState}
    {snap : RestoreSnapshot} (kept : Kept desktop start resized pending state)
    (member : snap ∈ pending) (unresized : snap.identity.hwnd ∉ resized)
    (sized : (start.place snap.identity.hwnd).Sized) :
    (state.placeBack snap).place snap.identity.hwnd = start.place snap.identity.hwnd := by
  have faithful := kept.waiting member
  obtain ⟨rect, held, width, height, corner⟩ := faithful.rect unresized sized
  have positive : (decide (0 < rect.width) && decide (0 < rect.height)) = true := by
    rw [width, height]
    simp [sized.width, sized.height]
  have back : state.placeBack snap = state.setPlace snap.identity.hwnd rect.left rect.top
      rect.width rect.height (if snap.topLevel then [.noZOrder, .noActivate]
        else [.noZOrder, .noActivate, .noMove]) := by
    simp only [DesktopState.placeBack, held]
    rw [if_pos positive]
  rw [back, DesktopState.setPlace_self, DesktopState.moved, width, height,
    max_eq_right sized.width.le, max_eq_right sized.height.le]
  cases isTop : desktop.parent snap.identity.hwnd with
  | none =>
      have top : snap.topLevel = true := by
        rw [faithful.topLevel, isTop]
        rfl
      obtain ⟨left, above⟩ := corner isTop
      simp [top, left, above]
  | some parent =>
      have below : snap.topLevel = false := by
        rw [faithful.topLevel, isTop]
        rfl
      have anchored : (state.place snap.identity.hwnd).x = (start.place snap.identity.hwnd).x ∧
          (state.place snap.identity.hwnd).y = (start.place snap.identity.hwnd).y := by
        apply kept.anchored
        rw [isTop]
        rfl
      simp [below, anchored.1, anchored.2]

theorem Kept.restored {pending : List RestoreSnapshot} {state : DesktopState}
    {snap : RestoreSnapshot} (kept : Kept desktop start resized (snap :: pending) state) :
    Kept desktop start resized pending (state.restored snap) := by
  have placed := kept.placeBack List.mem_cons_self
  have faithful := kept.waiting List.mem_cons_self
  have isWindow := names_identity faithful.named
  refine
    { stored := ?_
      waiting := fun member => kept.waiting (List.mem_cons_of_mem _ member)
      untouched := ?_
      dimmed := ?_
      anchored := ?_ }
  · intro identity other found
    rw [DesktopState.restored, DesktopState.showBack_caches] at found
    exact placed.stored found
  · intro hwnd unstored free
    rw [DesktopState.restored, DesktopState.showBack_caches] at unstored
    by_cases same : hwnd = snap.identity.hwnd
    · subst same
      refine ⟨?_, ?_⟩
      · simp only [DesktopState.restored, DesktopState.showBack]
        split
        · rename_i wasVisible
          rw [← faithful.wasVisible, wasVisible]
          simp [DesktopState.setVisible]
        · rename_i wasHidden
          rw [Bool.not_eq_true, faithful.wasVisible] at wasHidden
          rw [wasHidden]
          cases visible : (state.placeBack snap).visible snap.identity.hwnd with
          | false => rfl
          | true => exact absurd (placed.dimmed visible) (by simp [wasHidden])
      · intro unresized sized
        rw [DesktopState.restored, DesktopState.showBack_place]
        exact placeBack_place kept List.mem_cons_self unresized sized
    · have before := placed.untouched unstored (by
        intro other member isOther
        cases List.mem_cons.mp member with
        | inl isSnap =>
            rw [isSnap] at isOther
            exact same (congrArg WindowIdentity.hwnd isOther).symm
        | inr later => exact free other later isOther)
      refine ⟨?_, ?_⟩
      · simp only [DesktopState.restored, DesktopState.showBack]
        split
        · simp only [DesktopState.setVisible, same, if_false]
          exact before.visible
        · exact before.visible
      · rw [DesktopState.restored, DesktopState.showBack_place]
        exact before.place
  · intro hwnd visible
    simp only [DesktopState.restored, DesktopState.showBack] at visible
    split at visible
    · rename_i wasVisible
      simp only [DesktopState.setVisible] at visible
      split at visible
      · rename_i same
        rw [same, ← faithful.wasVisible]
        exact wasVisible
      · exact placed.dimmed visible
    · exact placed.dimmed visible
  · intro hwnd child
    rw [DesktopState.restored, DesktopState.showBack_place]
    exact placed.anchored child

theorem Kept.erase {state : DesktopState} {identity : WindowIdentity} {snap : RestoreSnapshot}
    (kept : Kept desktop start resized [] state)
    (found : state.caches.snapshots.lookup identity = some snap) :
    Kept desktop start resized [snap] (state.keep (state.caches.snapshots.erase identity)) where
  stored := by
    intro other held foundOther
    rw [DesktopState.keep_snapshots] at foundOther
    by_cases same : other = identity
    · rw [same, AList.lookup_erase] at foundOther
      cases foundOther
    · rw [AList.lookup_erase_ne same] at foundOther
      exact kept.stored foundOther
  waiting := by
    intro held member
    rw [List.mem_singleton.mp member]
    exact (kept.stored found).2
  untouched := by
    intro hwnd unstored free
    have different : desktop.identity hwnd ≠ identity := by
      intro same
      exact free snap List.mem_cons_self ((kept.stored found).1.trans same.symm)
    rw [DesktopState.keep_snapshots, AList.mem_erase, not_and] at unstored
    have before := kept.untouched (unstored different) (by simp)
    exact ⟨before.visible, before.place⟩
  dimmed := kept.dimmed
  anchored := kept.anchored

theorem Kept.bookFree : BookFree (Kept desktop start resized []) :=
  fun kept same _ => kept.book same

theorem Kept.gives (matched : WindowIdentity → Bool) :
    desktop.GivesBack matched (Kept desktop start resized []) := by
  intro state identity snap kept found _
  have faithful := (kept.stored found).2
  exact ⟨faithful.named, faithful.responds, (kept.erase found).restored⟩

end Desktop

/-- The windows an evaluation plans a positive size for. -/
def resizeTargets (evaluation : Evaluation) : List Hwnd :=
  (evaluation.actions.setPos.filter fun pos => 0 < pos.getD 3 0 && 0 < pos.getD 4 0).map
    fun pos => pos.getD 0 0

namespace Desktop

variable {desktop : Desktop} {start : DesktopState} {resized : List Hwnd}

theorem Kept.named {pending : List RestoreSnapshot} {state : DesktopState}
    {identity : WindowIdentity} (kept : Kept desktop start resized pending state)
    (stored : identity ∈ state.caches.snapshots) : desktop.names identity = true := by
  obtain ⟨snap, found⟩ := Option.isSome_iff_exists.mp (AList.lookup_isSome.mpr stored)
  obtain ⟨same, faithful⟩ := kept.stored found
  exact same ▸ faithful.named

theorem Kept.acts {graph : WindowGraph} {evaluation : Evaluation} {pids : List Pid}
    (steady : ∀ hwnd, (desktop.hung hwnd).isSome = true) (fits : desktop.Fits graph)
    (covers : ∀ hwnd ∈ resizeTargets evaluation, hwnd ∈ resized) :
    desktop.Acts graph evaluation pids (fun _ => Kept desktop start resized []) where
  capture := by
    intro hwnd rest state _ passed kept
    obtain ⟨_, _, _, named⟩ := node_of_passes passed
    exact kept.remember named (responds_of_passes (steady hwnd) passed)
  hide := by
    intro hwnd state _ stored passed kept
    have certain : desktop.refuses graph pids hwnd = false := by
      rw [refuses_of_steady (steady hwnd), passed]
      rfl
    exact kept.hide (stored certain)
  resize := by
    intro pos rest state member kept passed wide high
    have target : pos.getD 0 0 ∈ resizeTargets evaluation := by
      apply List.mem_map_of_mem
      apply List.mem_filter.mpr
      refine ⟨member, ?_⟩
      rw [decide_eq_true wide, decide_eq_true high]
      rfl
    apply kept.place (Or.inr (Or.inr (covers _ target)))
    exact fun _ => noMove_mem_swpFlags (Or.inl rfl)
  zero := by
    intro pos rest state _ kept passed _ stored
    obtain ⟨node, found, _⟩ := node_of_passes passed
    apply kept.place (Or.inl stored)
    intro child
    rw [← fits found] at child
    exact noMove_mem_swpFlags (Or.inr ⟨node, found, child⟩)
  skip := fun kept _ => kept
  named := fun kept stored => kept.named stored

theorem applyAndRestore_keeps {graph : WindowGraph} {evaluation : Evaluation} {pids : List Pid}
    {state : DesktopState} (steady : ∀ hwnd, (desktop.hung hwnd).isSome = true)
    (fits : desktop.Fits graph) (covers : ∀ hwnd ∈ resizeTargets evaluation, hwnd ∈ resized)
    (kept : Kept desktop start resized [] state) :
    desktop.environment.ensures (applyAndRestore graph evaluation pids)
      (fun _ => Kept desktop start resized []) state :=
  ensures_applyAndRestore (ensures_applyEvaluation (Kept.acts steady fits covers) fits kept)
    Kept.bookFree (Kept.gives _)

section Ticks

variable [Unicode]

/-- Only child windows are ever resized. -/
theorem resizeTargets_children {state : DesktopState} {pids : List Pid} {rules : LayoutRules}
    {withCandidates : Bool} {hwnd : Hwnd}
    (target : hwnd ∈ resizeTargets (desktop.evaluated state pids rules withCandidates).1) :
    (desktop.parent hwnd).isSome = true := by
  obtain ⟨pos, member, rfl⟩ := List.mem_map.mp target
  obtain ⟨planned, positive⟩ := List.mem_filter.mp member
  cases mem_evaluate_setPos.mp planned with
  | inl resized =>
      obtain ⟨parent, child, _, x, y, width, height, _, _, _, listed, _, _, _, rfl⟩ :=
        mem_viewResizes.mp resized
      have below : (desktop.parent child.hwnd).isSome = true := by
        rw [(buildGraph_pictures state pids).listed listed]
        rfl
      exact below
  | inr zeroed =>
      obtain ⟨_, _, rfl⟩ := zeroed
      simp at positive

theorem tick_keeps {pids : List Pid} {settings : AppSettings} {rules : LayoutRules}
    {state : DesktopState} (steady : ∀ hwnd, (desktop.hung hwnd).isSome = true)
    (kept : Kept desktop start resized [] state) :
    desktop.environment.ensures (tick pids settings rules)
      (fun evaluation after =>
        Kept desktop start (resizeTargets evaluation ++ resized) [] after ∧
          ∀ hwnd ∈ resizeTargets evaluation, (desktop.parent hwnd).isSome = true) state := by
  have weaker : ∀ evaluation, Kept desktop start (resizeTargets evaluation ++ resized) [] state :=
    fun _ => kept.weaken fun _ => List.mem_append_right _
  apply ensures_tick
  · intro _
    exact ⟨kept, fun hwnd target => by cases target⟩
  · intro _ caches tidied
    apply ensures_mono (applyAndRestore_keeps steady (buildGraph_pictures state pids).fits
      (fun _ => List.mem_append_left _) ((weaker _).book tidied.snapshots))
    intro _ after held
    exact ⟨held, fun hwnd => resizeTargets_children⟩
  · intro _ caches tidied
    exact ⟨(weaker _).book tidied.snapshots, fun hwnd => resizeTargets_children⟩

end Ticks

theorem restorePending_keeps {pending : List RestoreSnapshot} {failures : Nat}
    {lastError : String} {state : DesktopState}
    (kept : Kept desktop start resized pending state) (empty : state.caches.snapshots = ∅) :
    desktop.environment.ensures (restorePending pending failures lastError)
      (fun _ after => Kept desktop start resized [] after ∧ after.caches.snapshots = ∅) state := by
  induction pending generalizing failures lastError state with
  | nil => exact ⟨kept, empty⟩
  | cons snap rest ih =>
      have faithful := kept.waiting List.mem_cons_self
      apply ensures_bind.mpr
      apply ensures_reads (identityMatches_firm snap.identity)
      rw [eval_identityMatches, faithful.named]
      apply ensures_bind.mpr
      apply ensures_restoreSnapshot faithful.responds
      intro error
      apply ih kept.restored
      rw [DesktopState.restored, DesktopState.showBack_caches, DesktopState.placeBack_caches]
      exact empty

theorem Kept.drained {state : DesktopState} {pending : List RestoreSnapshot}
    (kept : Kept desktop start resized [] state)
    (all : ∀ snap, snap ∈ pending ↔
      ∃ identity, state.caches.snapshots.lookup identity = some snap) :
    Kept desktop start resized pending (state.keep ∅) where
  stored := by
    intro identity snap found
    cases found
  waiting := by
    intro snap member
    obtain ⟨identity, found⟩ := (all snap).mp member
    exact (kept.stored found).2
  untouched := by
    intro hwnd _ free
    have unstored : desktop.identity hwnd ∉ state.caches.snapshots := by
      intro stored
      obtain ⟨snap, found⟩ := Option.isSome_iff_exists.mp (AList.lookup_isSome.mpr stored)
      exact free snap ((all snap).mpr ⟨_, found⟩) (kept.stored found).1
    have before := kept.untouched unstored (by simp)
    exact ⟨before.visible, before.place⟩
  dimmed := kept.dimmed
  anchored := kept.anchored

theorem drainRestoreAll_keeps {state : DesktopState}
    (kept : Kept desktop start resized [] state) :
    desktop.environment.ensures drainRestoreAll
      (fun _ after => Kept desktop start resized [] after ∧ after.caches.snapshots = ∅) state := by
  apply ensures_bind.mpr
  apply ensures_bind.mpr
  apply ensures_bind.mpr
  apply ensures_order
  intro entries ordered
  apply ensures_bind.mpr
  apply ensures_modifySnapshots
  have all : ∀ snap, snap ∈ (entries.map Prod.snd).insertionSort
      (fun first second => restoreKey first ≤ restoreKey second) ↔
      ∃ identity, state.caches.snapshots.lookup identity = some snap := by
    intro snap
    rw [List.mem_insertionSort, List.mem_map]
    constructor
    · intro found
      obtain ⟨entry, member, rfl⟩ := found
      obtain ⟨pair, inSnapshots, rfl⟩ := List.mem_map.mp (ordered.subset member)
      exact ⟨pair.1, AList.mem_lookup_iff.mpr inSnapshots⟩
    · intro found
      obtain ⟨identity, found⟩ := found
      have inSnapshots := AList.mem_lookup_iff.mp found
      exact ⟨(identity, snap), ordered.symm.subset (List.mem_map_of_mem inSnapshots), rfl⟩
  have back : desktop.environment.ensures
      (restorePending ((entries.map Prod.snd).insertionSort fun first second =>
        restoreKey first ≤ restoreKey second) 0 "")
      (fun _ after => Kept desktop start resized [] after ∧ after.caches.snapshots = ∅)
      (state.keep ∅) := restorePending_keeps (kept.drained all) rfl
  apply ensures_mono back
  intro result after held
  apply ensures_bind.mpr
  apply ensures_bind.mpr
  apply ensures_readCaches
  apply ensures_write
  exact ⟨held.1.book rfl, held.2⟩

def topOf (desktop : Desktop) : Nat → Hwnd → Hwnd
  | 0, hwnd => hwnd
  | levels + 1, hwnd =>
      match desktop.parent hwnd with
      | none => hwnd
      | some parent => topOf desktop levels parent

/-- The window on the top level that the window is below. -/
def topLevel (desktop : Desktop) (hwnd : Hwnd) : Hwnd := desktop.topOf (desktop.depth hwnd) hwnd

theorem parent_topOf (levels : Nat) {hwnd : Hwnd} (enough : desktop.depth hwnd ≤ levels) :
    desktop.parent (desktop.topOf levels hwnd) = none := by
  induction levels generalizing hwnd with
  | zero =>
      cases above : desktop.parent hwnd with
      | none => exact above
      | some parent =>
          have lower := desktop.parentAbove above
          omega
  | succ levels ih =>
      unfold topOf
      split
      · assumption
      · rename_i parent above
        have lower := desktop.parentAbove above
        exact ih (by omega)

/-- The corner of a window on the screen depends on the offsets of the child
windows above it and on the position of its top-level window. -/
theorem origin_congr {first second : Hwnd → Place} (levels : Nat) {hwnd : Hwnd}
    (offsets : ∀ {child}, (desktop.parent child).isSome = true →
      (first child).x = (second child).x ∧ (first child).y = (second child).y)
    (top : first (desktop.topOf levels hwnd) = second (desktop.topOf levels hwnd)) :
    desktop.origin first levels hwnd = desktop.origin second levels hwnd := by
  induction levels generalizing hwnd with
  | zero =>
      simp only [topOf] at top
      simp only [origin, top]
  | succ levels ih =>
      unfold topOf at top
      unfold origin
      cases above : desktop.parent hwnd with
      | none =>
          simp only [above] at top
          simp only [top]
      | some parent =>
          simp only [above] at top
          have same := offsets (by rw [above]; rfl)
          simp only [ih top, same.1, same.2]

end Desktop

/-- Any number of ticks; titles and the aggressive flag change between them. -/
inductive DesktopRun [Unicode] (desktop : Desktop) (start : DesktopState) :
    List Hwnd → DesktopState → Prop where
  | start : DesktopRun desktop start [] start
  | tick {resized : List Hwnd} {before after : DesktopState} {evaluation : Evaluation}
      (pids : List Pid) (settings : AppSettings) (rules : LayoutRules)
      (earlier : DesktopRun desktop start resized before)
      (ran : desktop.environment.Runs (Engine.tick pids settings rules) before evaluation after) :
      DesktopRun desktop start (resizeTargets evaluation ++ resized) after
  | retitle {resized : List Hwnd} {before : DesktopState} (title : Hwnd → WindowText)
      (aggressive : Bool) (earlier : DesktopRun desktop start resized before) :
      DesktopRun desktop start resized { before with title := title, aggressive := aggressive }

theorem DesktopRun.keeps [Unicode] {desktop : Desktop} {start finish : DesktopState}
    {resized : List Hwnd} (steady : ∀ hwnd, (desktop.hung hwnd).isSome = true)
    (fresh : start.caches.snapshots = ∅) (run : DesktopRun desktop start resized finish) :
    desktop.Kept start resized [] finish ∧
      ∀ hwnd ∈ resized, (desktop.parent hwnd).isSome = true := by
  induction run with
  | start => exact ⟨Desktop.Kept.fresh fresh, by simp⟩
  | tick pids settings rules earlier ran ih =>
      have held := ensures_runs (Desktop.tick_keeps steady ih.1) ran
      refine ⟨held.1, ?_⟩
      intro hwnd member
      cases List.mem_append.mp member with
      | inl now => exact held.2 hwnd now
      | inr before => exact ih.2 hwnd before
  | retitle title aggressive earlier ih =>
      refine ⟨?_, ih.2⟩
      exact
        { stored := ih.1.stored
          waiting := ih.1.waiting
          untouched := fun unstored free =>
            ⟨(ih.1.untouched unstored free).visible, (ih.1.untouched unstored free).place⟩
          dimmed := ih.1.dimmed
          anchored := ih.1.anchored }

/-- After any number of ticks and one drain every window has its own visibility
back, every window that was never resized has its size and its position in its
parent back, and its rectangle on the screen if its top-level window had a size
to restore.  No window starts or stops hanging. -/
theorem windows_come_back [Unicode] {desktop : Desktop} {start before finish : DesktopState}
    {resized : List Hwnd} {result : Nat × String}
    (steady : ∀ hwnd, (desktop.hung hwnd).isSome = true) (fresh : start.caches.snapshots = ∅)
    (run : DesktopRun desktop start resized before)
    (drained : desktop.environment.Runs drainRestoreAll before result finish) :
    (∀ hwnd, finish.visible hwnd = start.visible hwnd) ∧
      (∀ hwnd ∉ resized, (start.place hwnd).Sized →
        finish.place hwnd = start.place hwnd ∧
          ((start.place (desktop.topLevel hwnd)).Sized →
            desktop.screenRect finish.place hwnd = desktop.screenRect start.place hwnd)) ∧
      finish.caches.snapshots = ∅ := by
  obtain ⟨kept, children⟩ := run.keeps steady fresh
  obtain ⟨restored, empty⟩ := ensures_runs (Desktop.drainRestoreAll_keeps kept) drained
  have untouched : ∀ hwnd, Desktop.Untouched start resized finish hwnd := by
    intro hwnd
    apply restored.untouched
    · rw [empty]
      exact AList.notMem_empty _
    · simp
  refine ⟨fun hwnd => (untouched hwnd).visible, ?_, empty⟩
  intro hwnd unresized sized
  have same := (untouched hwnd).place unresized sized
  refine ⟨same, ?_⟩
  intro topSized
  have isTop : desktop.parent (desktop.topLevel hwnd) = none := Desktop.parent_topOf _ le_rfl
  have topUnresized : desktop.topLevel hwnd ∉ resized := by
    intro member
    have child := children _ member
    rw [isTop] at child
    cases child
  have topSame := (untouched (desktop.topLevel hwnd)).place topUnresized topSized
  have corner : desktop.origin finish.place (desktop.depth hwnd) hwnd =
      desktop.origin start.place (desktop.depth hwnd) hwnd :=
    Desktop.origin_congr _ restored.anchored topSame
  simp only [Desktop.screenRect, corner, same]

/-- A popup host with one web view, away from the corner of the screen. -/
def webViewHost : Desktop where
  live := fun hwnd => hwnd = 1 || hwnd = 2
  pid := fun _ => 5
  className := fun hwnd => if hwnd = 2 then "AdFitWebView" else "EVA_Window"
  parent := fun hwnd => if hwnd = 2 then some 1 else none
  owner := fun _ => 0
  client := fun _ => (0, 0)
  tops := [1]
  descendants := fun _ => [2]
  depth := fun hwnd => if hwnd = 2 then 1 else 0
  topsAbove := by simp
  descendantsBelow := by simp
  parentAbove := by
    intro hwnd above found
    split at found
    · rename_i same
      cases found
      simp [same]
    · cases found

/-- A host that is as wide as given, with a web view in it, both visible. -/
def webViewStart (hostWidth : Int) : DesktopState where
  visible := fun _ => true
  place := fun hwnd =>
    if hwnd = 1 then { x := 40, y := 30, width := hostWidth, height := 200 }
    else { x := 5, y := 5, width := 100, height := 50 }
  title := fun _ => .known ""

/-- A tick over the process of that screen, with the default rules. -/
def webViewTick : EngineM Evaluation :=
  letI := asciiLowercase
  tick [5] { cacheCleanupIntervalMs := 1000 } LayoutRules.default

/-- The screen after the tick, with what was found. -/
def webViewHidden (hostWidth : Int) : Evaluation × DesktopState :=
  webViewTick.exec webViewHost.handler (webViewStart hostWidth)

def webViewRestored (hostWidth : Int) : DesktopState :=
  (drainRestoreAll.exec webViewHost.handler (webViewHidden hostWidth).2).2

theorem webViewRun (hostWidth : Int) :
    @DesktopRun asciiLowercase webViewHost (webViewStart hostWidth)
      (resizeTargets (webViewHidden hostWidth).1 ++ []) (webViewHidden hostWidth).2 := by
  let _ := asciiLowercase
  have ran := runs_exec webViewHost.handler_realizes webViewTick (webViewStart hostWidth)
  exact DesktopRun.tick _ _ _ DesktopRun.start ran

set_option maxRecDepth 4000 in
/-- The host is moved to the corner and has no size to be restored, so its web
view ends up in another place on the screen. -/
theorem narrowHost_view_moved :
    (webViewStart 0).caches.snapshots = ∅ ∧
      @DesktopRun asciiLowercase webViewHost (webViewStart 0)
        (resizeTargets (webViewHidden 0).1 ++ []) (webViewHidden 0).2 ∧
      (∃ result, webViewHost.environment.Runs drainRestoreAll (webViewHidden 0).2 result
        (webViewRestored 0)) ∧
      (2 : Hwnd) ∉ resizeTargets (webViewHidden 0).1 ++ [] ∧ ((webViewStart 0).place 2).Sized ∧
      webViewHost.screenRect (webViewStart 0).place 2 = ⟨45, 35, 145, 85⟩ ∧
      webViewHost.screenRect (webViewRestored 0).place 2 = ⟨5, 5, 105, 55⟩ := by
  refine ⟨rfl, webViewRun 0, ⟨_, runs_exec webViewHost.handler_realizes _ _⟩, ?_, ?_, ?_, ?_⟩
  · decide
  · exact ⟨by decide, by decide, by decide, by decide⟩
  · decide
  · decide

set_option maxRecDepth 4000 in
theorem wideHost_comes_back :
    (webViewHidden 300).2.visible 1 = false ∧ (webViewHidden 300).2.place 2 = ⟨5, 5, 0, 0⟩ ∧
      (webViewRestored 300).visible = (webViewStart 300).visible ∧
      webViewHost.screenRect (webViewRestored 300).place 2 =
        webViewHost.screenRect (webViewStart 300).place 2 := by
  let _ := asciiLowercase
  have drained := runs_exec webViewHost.handler_realizes drainRestoreAll (webViewHidden 300).2
  obtain ⟨visible, places, _⟩ :=
    windows_come_back (fun _ => rfl) rfl (webViewRun 300) drained
  have sized : ((webViewStart 300).place 2).Sized :=
    ⟨by decide, by decide, by decide, by decide⟩
  have hostSized : ((webViewStart 300).place (webViewHost.topLevel 2)).Sized :=
    ⟨by decide, by decide, by decide, by decide⟩
  exact ⟨by decide, by decide, funext visible, (places 2 (by decide) sized).2 hostSized⟩

end LayoutAdblock.Engine
