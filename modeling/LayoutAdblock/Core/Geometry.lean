import Mathlib.Algebra.Order.Group.Abs
import Mathlib.Algebra.Order.Group.Int
import Mathlib.Algebra.Order.Group.Unbundled.Int
import LayoutAdblock.Core.Layout

namespace LayoutAdblock.Core

/-! # Geometry without overflow

The evaluator subtracts coordinates with the plain operators of `i32`.  The
release profile wraps a result that does not fit, and the debug profile panics.
-/

/-- What an operation yields for its mathematical result; `none` is a panic. -/
abbrev I32Profile := Int → Option Int

/-- A release build has no overflow checks, so a result outside the range wraps around and
the plan goes on with it. -/
def releaseProfile : I32Profile := fun result => some (wrapI32 result)

/-- A debug build checks every operation, so a result outside the range panics and there is
no plan at all. -/
def debugProfile : I32Profile := fun result =>
  if -2147483648 ≤ result ∧ result ≤ 2147483647 then some result else none

def exactProfile : I32Profile := some

/-- The end of `planned_view_resize`. -/
def resizeTo (current : Option Rect) (width : Int) : Option Int → Option (Int × Int × Int × Int)
  | none => none
  | some height =>
      if width < 1 || height < 1 then none
      else if current.any (fun rect => rect.width == width && rect.height == height) then none
      else some (0, 0, width, height)

section Profiles

variable (i32 : I32Profile)

/-- How far the two lower edges are apart. The absolute value is computed as well, and that
of the least `i32` does not fit either. -/
def bottomDistanceIn (childRect parentRect : Rect) : Option Int := do
  let difference ← i32 (childRect.bottom - parentRect.bottom)
  i32 difference.natAbs

/-- The test of a bottom banner with its arithmetic left to the profile. The ratio is
computed in floating point, and the distance only once everything before it has passed. -/
def isBottomBannerCandidateIn (rules : LayoutRules) (childRect parentRect : Rect) : Option Bool :=
  let height := childRect.height
  let width := childRect.width
  let parentWidth := parentRect.width
  if height < rules.bannerMinHeightPx || height > rules.bannerMaxHeightPx then some false
  else if parentWidth ≤ 0 then some false
  else if Float.ofInt width / Float.ofInt parentWidth < rules.bannerMinWidthRatio then some false
  else do
    let distance ← bottomDistanceIn i32 childRect parentRect
    if distance > rules.bannerBottomMarginPx then return false
    return true

/-- The resize of the main or the lock view with its arithmetic left to the profile. A title
with neither prefix plans nothing, and the width is computed before the title is looked at. -/
def plannedViewResizeIn (rules : LayoutRules) (windowText : String) (parentRect : Rect)
    (current : Option Rect) : Option (Option (Int × Int × Int × Int)) := do
  let width ← i32 (parentRect.width - rules.layoutShadowPaddingPx)
  let planned ←
    if startsWith windowText rules.mainViewPrefix then
      (i32 (parentRect.height - rules.mainViewPaddingPx)).map some
    else if startsWith windowText rules.lockViewPrefix then
      some (some parentRect.height)
    else
      some none
  return resizeTo current width planned

end Profiles

variable {rules : LayoutRules} {childRect parentRect : Rect} {windowText : String}
  {current : Option Rect}

/-- The release profile is the evaluator that ships. -/
theorem plannedViewResize_eq_resizeTo :
    plannedViewResize rules windowText parentRect current =
      resizeTo current (wrapI32 (parentRect.width - rules.layoutShadowPaddingPx))
        (if startsWith windowText rules.mainViewPrefix then
          some (wrapI32 (parentRect.height - rules.mainViewPaddingPx))
        else if startsWith windowText rules.lockViewPrefix then some parentRect.height
        else none) :=
  rfl

theorem plannedViewResizeIn_release :
    plannedViewResizeIn releaseProfile rules windowText parentRect current =
      some (plannedViewResize rules windowText parentRect current) := by
  rw [plannedViewResize_eq_resizeTo, plannedViewResizeIn, releaseProfile, releaseProfile]
  generalize wrapI32 (parentRect.width - rules.layoutShadowPaddingPx) = width
  generalize wrapI32 (parentRect.height - rules.mainViewPaddingPx) = height
  generalize parentRect.height = parentHeight
  split_ifs <;> rfl

theorem debugProfile_of_fits {result : Int} (low : -2147483648 ≤ result)
    (high : result ≤ 2147483647) : debugProfile result = some result :=
  if_pos ⟨low, high⟩

theorem debugProfile_of_overflow {result : Int}
    (overflow : result < -2147483648 ∨ 2147483647 < result) : debugProfile result = none :=
  if_neg (by omega)

/-- The tests that come before the bottoms are compared. Where one of them fails nothing is
computed that could overflow. -/
def BannerSized (rules : LayoutRules) (childRect parentRect : Rect) : Prop :=
  ¬ (childRect.height < rules.bannerMinHeightPx || childRect.height > rules.bannerMaxHeightPx) ∧
    ¬ parentRect.width ≤ 0 ∧
    ¬ Float.ofInt childRect.width / Float.ofInt parentRect.width < rules.bannerMinWidthRatio

/-- In every profile the bottoms are compared last. -/
theorem isBottomBannerCandidateIn_of_sized (i32 : I32Profile)
    (sized : BannerSized rules childRect parentRect) :
    isBottomBannerCandidateIn i32 rules childRect parentRect =
      (bottomDistanceIn i32 childRect parentRect).map
        fun distance => decide (distance ≤ rules.bannerBottomMarginPx) := by
  obtain ⟨tall, wide, ratio⟩ := sized
  rw [isBottomBannerCandidateIn, if_neg tall, if_neg wide, if_neg ratio]
  cases bottomDistanceIn i32 childRect parentRect with
  | none => rfl
  | some distance =>
      by_cases far : distance > rules.bannerBottomMarginPx
      · simp [far, Int.not_le.mpr far]
      · simp [far, Int.not_lt.mp far]

theorem isBottomBannerCandidateIn_of_not_sized (i32 : I32Profile)
    (sized : ¬ BannerSized rules childRect parentRect) :
    isBottomBannerCandidateIn i32 rules childRect parentRect = some false := by
  rw [isBottomBannerCandidateIn]
  split_ifs with tall wide ratio
  · rfl
  · rfl
  · rfl
  · exact absurd ⟨tall, wide, ratio⟩ sized

theorem isBottomBannerCandidate_of_sized (sized : BannerSized rules childRect parentRect) :
    isBottomBannerCandidate rules childRect parentRect =
      decide (bottomDistance childRect parentRect ≤ rules.bannerBottomMarginPx) := by
  obtain ⟨tall, wide, ratio⟩ := sized
  rw [isBottomBannerCandidate, if_neg tall, if_neg wide, if_neg ratio]
  by_cases far : bottomDistance childRect parentRect > rules.bannerBottomMarginPx
  · rw [if_pos far, decide_eq_false (Int.not_le.mpr far)]
  · rw [if_neg far, decide_eq_true (Int.not_lt.mp far)]

theorem isBottomBannerCandidate_of_not_sized (sized : ¬ BannerSized rules childRect parentRect) :
    isBottomBannerCandidate rules childRect parentRect = false := by
  rw [isBottomBannerCandidate]
  split_ifs with tall wide ratio
  · rfl
  · rfl
  · rfl
  · exact absurd ⟨tall, wide, ratio⟩ sized
  · exact absurd ⟨tall, wide, ratio⟩ sized

theorem isBottomBannerCandidateIn_release :
    isBottomBannerCandidateIn releaseProfile rules childRect parentRect =
      some (isBottomBannerCandidate rules childRect parentRect) := by
  by_cases sized : BannerSized rules childRect parentRect
  · have distance : bottomDistanceIn releaseProfile childRect parentRect =
        some (bottomDistance childRect parentRect) := by
      simp only [bottomDistanceIn, bottomDistance, releaseProfile, Option.bind_eq_bind,
        Option.bind_some]
    rw [isBottomBannerCandidateIn_of_sized _ sized, isBottomBannerCandidate_of_sized sized,
      distance, Option.map_some]
  · rw [isBottomBannerCandidateIn_of_not_sized _ sized, isBottomBannerCandidate_of_not_sized sized]

theorem bottomDistanceIn_exact :
    bottomDistanceIn exactProfile childRect parentRect =
      some |childRect.bottom - parentRect.bottom| := by
  simp only [bottomDistanceIn, exactProfile, Option.bind_eq_bind, Option.bind_some,
    Int.natCast_natAbs]

theorem bottomDistance_of_near (near : |childRect.bottom - parentRect.bottom| ≤ 2147483647) :
    bottomDistanceIn debugProfile childRect parentRect =
        some |childRect.bottom - parentRect.bottom| ∧
      bottomDistance childRect parentRect = |childRect.bottom - parentRect.bottom| := by
  have bounds := abs_le.mp near
  have positive := abs_nonneg (childRect.bottom - parentRect.bottom)
  have difference : debugProfile (childRect.bottom - parentRect.bottom) = some _ :=
    debugProfile_of_fits (by omega) bounds.2
  constructor
  · simp only [bottomDistanceIn, difference, Option.bind_eq_bind, Option.bind_some,
      Int.natCast_natAbs]
    exact debugProfile_of_fits (by omega) near
  · rw [bottomDistance, wrapI32_of_fits (by omega) bounds.2, Int.natCast_natAbs,
      wrapI32_of_fits (by omega) near]

theorem bottomDistanceIn_of_far (far : 2147483647 < |childRect.bottom - parentRect.bottom|) :
    bottomDistanceIn debugProfile childRect parentRect = none := by
  by_cases fits : -2147483648 ≤ childRect.bottom - parentRect.bottom ∧
      childRect.bottom - parentRect.bottom ≤ 2147483647
  · simp only [bottomDistanceIn, debugProfile_of_fits fits.1 fits.2, Option.bind_eq_bind,
      Option.bind_some, Int.natCast_natAbs]
    exact debugProfile_of_overflow (.inr far)
  · have overflow : debugProfile (childRect.bottom - parentRect.bottom) = none :=
      debugProfile_of_overflow (by omega)
    simp only [bottomDistanceIn, overflow, Option.bind_eq_bind, Option.bind_none]

/-- The banner test neither panics nor differs from exact arithmetic. -/
theorem banner_exact_iff :
    (isBottomBannerCandidateIn debugProfile rules childRect parentRect ≠ none ∧
        isBottomBannerCandidateIn exactProfile rules childRect parentRect =
          some (isBottomBannerCandidate rules childRect parentRect)) ↔
      (BannerSized rules childRect parentRect →
        |childRect.bottom - parentRect.bottom| ≤ 2147483647) := by
  by_cases sized : BannerSized rules childRect parentRect
  · rw [isBottomBannerCandidateIn_of_sized _ sized, isBottomBannerCandidateIn_of_sized _ sized,
      isBottomBannerCandidate_of_sized sized, bottomDistanceIn_exact]
    by_cases near : |childRect.bottom - parentRect.bottom| ≤ 2147483647
    · obtain ⟨distanceIn, distance⟩ := bottomDistance_of_near near
      simp only [distanceIn, distance, near, Option.map_some, ne_eq, reduceCtorEq,
        not_false_eq_true, implies_true, and_self]
    · simp only [bottomDistanceIn_of_far (Int.not_le.mp near), near, sized, Option.map_none,
        ne_eq, not_true_eq_false, false_and, forall_const]
  · simp only [isBottomBannerCandidateIn_of_not_sized _ sized,
      isBottomBannerCandidate_of_not_sized sized, sized, ne_eq, reduceCtorEq, not_false_eq_true,
      and_self, false_implies]

theorem width_bounds (rect : Rect) : -2147483648 ≤ rect.width ∧ rect.width ≤ 2147483647 := by
  rw [Rect.width, clampI32]
  omega

theorem height_bounds (rect : Rect) : -2147483648 ≤ rect.height ∧ rect.height ≤ 2147483647 := by
  rw [Rect.height, clampI32]
  omega

theorem resizeTo_some {width : Int} {planned : Option Int} {x y w h : Int}
    (resized : resizeTo current width planned = some (x, y, w, h)) :
    x = 0 ∧ y = 0 ∧ w = width ∧ planned = some h ∧ 1 ≤ w ∧ 1 ≤ h := by
  cases planned with
  | none => cases resized
  | some height =>
      simp only [resizeTo] at resized
      split_ifs at resized with small
      simp only [Option.some.injEq, Prod.mk.injEq] at resized
      obtain ⟨rfl, rfl, rfl, rfl⟩ := resized
      simp only [Bool.or_eq_true, decide_eq_true_eq, not_or] at small
      exact ⟨rfl, rfl, rfl, rfl, by omega, by omega⟩

/-- The resize of a view in exact arithmetic. -/
theorem plannedViewResizeIn_exact :
    plannedViewResizeIn exactProfile rules windowText parentRect current =
      some (resizeTo current (parentRect.width - rules.layoutShadowPaddingPx)
        (if startsWith windowText rules.mainViewPrefix then
          some (parentRect.height - rules.mainViewPaddingPx)
        else if startsWith windowText rules.lockViewPrefix then some parentRect.height
        else none)) := by
  rw [plannedViewResizeIn]
  simp only [exactProfile]
  generalize parentRect.width - rules.layoutShadowPaddingPx = width
  generalize parentRect.height - rules.mainViewPaddingPx = height
  generalize parentRect.height = parentHeight
  split_ifs <;> rfl

variable (current) in

/-- The resize of a view neither panics nor differs from exact arithmetic. -/
theorem resize_exact_iff :
    (plannedViewResizeIn debugProfile .default windowText parentRect current ≠ none ∧
        plannedViewResizeIn exactProfile .default windowText parentRect current =
          some (plannedViewResize .default windowText parentRect current)) ↔
      -2147483646 ≤ parentRect.width ∧
        (startsWith windowText "OnlineMainView" = true → -2147483617 ≤ parentRect.height) := by
  have widthBounds := width_bounds parentRect
  have heightBounds := height_bounds parentRect
  have widthPadding : LayoutRules.default.layoutShadowPaddingPx = 2 := rfl
  have heightPadding : LayoutRules.default.mainViewPaddingPx = 31 := rfl
  have mainPrefix : LayoutRules.default.mainViewPrefix = "OnlineMainView" := rfl
  rw [plannedViewResizeIn_exact, plannedViewResize_eq_resizeTo, plannedViewResizeIn, widthPadding,
    heightPadding, mainPrefix]
  by_cases wide : -2147483646 ≤ parentRect.width
  · have fits : debugProfile (parentRect.width - 2) = some _ :=
      debugProfile_of_fits (by omega) (by omega)
    have kept : wrapI32 (parentRect.width - 2) = _ := wrapI32_of_fits (by omega) (by omega)
    rw [fits, kept]
    cases main : startsWith windowText "OnlineMainView" with
    | true =>
        by_cases tall : -2147483617 ≤ parentRect.height
        · have heightFits : debugProfile (parentRect.height - 31) = some _ :=
            debugProfile_of_fits (by omega) (by omega)
          have heightKept : wrapI32 (parentRect.height - 31) = _ :=
            wrapI32_of_fits (by omega) (by omega)
          rw [heightFits, heightKept]
          simp [wide, tall]
        · have overflow : debugProfile (parentRect.height - 31) = none :=
            debugProfile_of_overflow (by omega)
          rw [overflow]
          simp [tall]
    | false =>
        simp only [Bool.false_eq_true, if_false, wide, false_implies, and_self, iff_true]
        refine ⟨?_, trivial⟩
        split_ifs <;> simp
  · have overflow : debugProfile (parentRect.width - 2) = none :=
      debugProfile_of_overflow (by omega)
    rw [overflow]
    simp [wide]

/-- The geometry verdicts on a child, its parent and a view of the parent do not
overflow, agree with exact arithmetic, and keep to their bounds. -/
structure GeometryExact (childRect parentRect : Rect) (windowText : String)
    (current : Option Rect) : Prop where
  bannerRuns : isBottomBannerCandidateIn debugProfile .default childRect parentRect ≠ none
  bannerAgrees : isBottomBannerCandidateIn exactProfile .default childRect parentRect =
    some (isBottomBannerCandidate .default childRect parentRect)
  resizeRuns : plannedViewResizeIn debugProfile .default windowText parentRect current ≠ none
  resizeAgrees : plannedViewResizeIn exactProfile .default windowText parentRect current =
    some (plannedViewResize .default windowText parentRect current)
  banner : isBottomBannerCandidate .default childRect parentRect = true →
    |childRect.bottom - parentRect.bottom| ≤ LayoutRules.default.bannerBottomMarginPx
  resize : ∀ x y w h, plannedViewResize .default windowText parentRect current =
      some (x, y, w, h) →
    x = 0 ∧ y = 0 ∧ 1 ≤ w ∧ 1 ≤ h ∧
      w = parentRect.width - LayoutRules.default.layoutShadowPaddingPx ∧
      if startsWith windowText LayoutRules.default.mainViewPrefix then
        h = parentRect.height - LayoutRules.default.mainViewPaddingPx
      else startsWith windowText LayoutRules.default.lockViewPrefix = true ∧ h = parentRect.height

/-- Geometry is exact if and only if the bottoms that are compared are at most `i32::MAX`
apart, and the parent is not so negative that a padding leaves `i32`. -/
theorem geometryExact_iff (childRect parentRect : Rect) (windowText : String)
    (current : Option Rect) :
    GeometryExact childRect parentRect windowText current ↔
      (BannerSized .default childRect parentRect →
        |childRect.bottom - parentRect.bottom| ≤ 2147483647) ∧
      -2147483646 ≤ parentRect.width ∧
      (startsWith windowText "OnlineMainView" = true → -2147483617 ≤ parentRect.height) := by
  rw [← banner_exact_iff, ← resize_exact_iff current]
  constructor
  · intro held
    exact ⟨⟨held.bannerRuns, held.bannerAgrees⟩, held.resizeRuns, held.resizeAgrees⟩
  · rintro ⟨⟨bannerRuns, bannerAgrees⟩, resizeRuns, resizeAgrees⟩
    refine ⟨bannerRuns, bannerAgrees, resizeRuns, resizeAgrees, fun accepted => ?_,
      fun x y w h planned => ?_⟩
    · by_cases sized : BannerSized .default childRect parentRect
      · rw [isBottomBannerCandidateIn_of_sized _ sized, bottomDistanceIn_exact,
          accepted] at bannerAgrees
        simpa using bannerAgrees
      · rw [isBottomBannerCandidate_of_not_sized sized] at accepted
        cases accepted
    · rw [plannedViewResizeIn_exact, planned, Option.some.injEq] at resizeAgrees
      obtain ⟨rfl, rfl, width, height, positiveWidth, positiveHeight⟩ := resizeTo_some resizeAgrees
      refine ⟨rfl, rfl, positiveWidth, positiveHeight, width, ?_⟩
      split_ifs at height ⊢ with main lock
      · exact (Option.some.inj height).symm
      · exact ⟨lock, (Option.some.inj height).symm⟩

/-- A parent as wide as coordinates allow, turned around, gives its main view almost
the greatest width. -/
theorem geometryExact_inverted :
    ¬ GeometryExact ⟨0, 0, 0, 0⟩ ⟨2147483647, 0, -2147483648, 800⟩ "OnlineMainView" none ∧
      plannedViewResize .default "OnlineMainView" ⟨2147483647, 0, -2147483648, 800⟩ none =
        some (0, 0, 2147483646, 769) := by
  have planned : plannedViewResize .default "OnlineMainView" ⟨2147483647, 0, -2147483648, 800⟩
      none = some (0, 0, 2147483646, 769) := by decide
  refine ⟨fun held => ?_, planned⟩
  obtain ⟨_, _, _, _, width, _⟩ := held.resize _ _ _ _ planned
  exact absurd width (by decide)

end LayoutAdblock.Core
