import LayoutAdblock.Core.Rules

namespace LayoutAdblock.Core

variable [Unicode]

/-- The scanner of `ascii_words`, with the run it has collected so far. A character that
belongs to no word ends the run. -/
def asciiWordsFrom (current : List Char) : List Char → List String
  | [] => if current.isEmpty then [] else [String.ofList current]
  | ch :: rest =>
      if ch.isLower || ch.isDigit then
        asciiWordsFrom (current ++ [ch]) rest
      else if current.isEmpty then
        asciiWordsFrom [] rest
      else
        String.ofList current :: asciiWordsFrom [] rest

/-- The words a short token has to be one of, which are the runs of ASCII letters and digits
of a text. -/
def asciiWords (text : String) : List String := asciiWordsFrom [] text.toList

/-- `is_ascii` and all of `is_ascii_alphanumeric`, at most two bytes long. Such a token is
too common to be looked for within words. -/
def isShortToken (token : String) : Bool :=
  token.toList.all Char.isAlphanum && token.toList.length ≤ 2

/-- Whether a text mentions one of the tokens. A short token has to be a whole word of it,
so that `ad` is not found in `download`; a longer one may stand anywhere, and an empty one
never does. -/
def containsAnyAdToken (tokensLc : List String) (text : String) : Bool :=
  if text = "" then false
  else
    let low := Unicode.toLowercase text
    tokensLc.any fun token =>
      if token = "" then false
      else if isShortToken token then (asciiWords low).contains token
      else containsText low token

/-- The same with the tokens of the rules, lowercased once. -/
def containsAdToken (rules : LayoutRules) (text : String) : Bool :=
  containsAnyAdToken rules.aggressiveAdTokensLc text

theorem containsAnyAdToken_empty (tokensLc : List String) :
    containsAnyAdToken tokensLc "" = false := rfl

omit [Unicode]

/-- Embedded browsers draw the advertisements, and their window classes are told by a
prefix. -/
def isChromeWidgetClass (rules : LayoutRules) (className : String) : Bool :=
  rules.chromeWidgetPrefixes.any (startsWith className)

/-- `|child.bottom - parent.bottom|` in the wrapping `i32` arithmetic of the
release profile. -/
def bottomDistance (childRect parentRect : Rect) : Int :=
  wrapI32 (wrapI32 (childRect.bottom - parentRect.bottom)).natAbs

/-- A strip of the height of a banner at the lower edge of its parent, nearly as wide as the
parent is. The bounds are inclusive, and a parent without width has no banner. -/
def isBottomBannerCandidate (rules : LayoutRules) (childRect parentRect : Rect) : Bool :=
  let height := childRect.height
  let width := childRect.width
  let parentWidth := parentRect.width
  if height < rules.bannerMinHeightPx || height > rules.bannerMaxHeightPx then false
  else if parentWidth ≤ 0 then false
  else if Float.ofInt width / Float.ofInt parentWidth < rules.bannerMinWidthRatio then false
  else if bottomDistance childRect parentRect > rules.bannerBottomMarginPx then false
  else true

/-- An empty child of a titled window without a scroll view is what is left of an
advertisement. Where the rules ask for it, there has to be a sign of one as well. -/
def shouldCloseEmptyEvaChild (rules : LayoutRules) (className windowText parentText : String)
    (hasCustomScroll hasAdSignal : Bool) : Bool :=
  let matched := className == rules.evaChildClass && windowText == "" && parentText != "" &&
    !hasCustomScroll
  if !matched then false
  else if rules.closeEmptyEvaChildRequiresAdSignal && !hasAdSignal then false
  else true

/-- Where a main or lock view is to be put, so that it covers the strip a hidden banner
leaves. Nothing is planned for a view that is there already, and never a size below one
pixel. -/
def plannedViewResize (rules : LayoutRules) (windowText : String) (parentRect : Rect)
    (current : Option Rect) : Option (Int × Int × Int × Int) :=
  let width := wrapI32 (parentRect.width - rules.layoutShadowPaddingPx)
  let planned :=
    if startsWith windowText rules.mainViewPrefix then
      some (wrapI32 (parentRect.height - rules.mainViewPaddingPx))
    else if startsWith windowText rules.lockViewPrefix then
      some parentRect.height
    else
      none
  match planned with
  | none => none
  | some height =>
      if width < 1 || height < 1 then none
      else if current.any (fun rect => rect.width == width && rect.height == height) then none
      else some (0, 0, width, height)

/-- A planned resize is anchored at the origin, positive in both directions,
and different from the current size. -/
theorem plannedViewResize_some {rules : LayoutRules} {windowText : String} {parentRect : Rect}
    {current : Option Rect} {x y width height : Int}
    (planned : plannedViewResize rules windowText parentRect current =
      some (x, y, width, height)) :
    x = 0 ∧ y = 0 ∧ 0 < width ∧ 0 < height ∧
      ∀ rect, current = some rect → ¬ (rect.width = width ∧ rect.height = height) := by
  simp only [plannedViewResize] at planned
  split at planned
  · contradiction
  · rename_i planHeight _
    split at planned
    · contradiction
    · rename_i positive
      split at planned
      · contradiction
      · rename_i differs
        simp only [Option.some.injEq, Prod.mk.injEq] at planned
        obtain ⟨rfl, rfl, rfl, rfl⟩ := planned
        simp only [Bool.or_eq_true, decide_eq_true_eq, not_or] at positive
        refine ⟨rfl, rfl, by omega, by omega, ?_⟩
        rintro rect rfl ⟨sameWidth, sameHeight⟩
        simp [sameWidth, sameHeight] at differs

/-- A planned size is an `i32`. -/
theorem plannedViewResize_fits {rules : LayoutRules} {windowText : String} {parentRect : Rect}
    {current : Option Rect} {x y width height : Int}
    (planned : plannedViewResize rules windowText parentRect current =
      some (x, y, width, height)) : width ≤ 2147483647 ∧ height ≤ 2147483647 := by
  simp only [plannedViewResize] at planned
  split at planned
  · contradiction
  · rename_i planHeight sized
    split at planned
    · contradiction
    · split at planned
      · contradiction
      · simp only [Option.some.injEq, Prod.mk.injEq] at planned
        obtain ⟨_, _, rfl, rfl⟩ := planned
        refine ⟨wrapI32_le _, ?_⟩
        split at sized
        · rw [← Option.some.inj sized]
          exact wrapI32_le _
        · split at sized
          · rw [← Option.some.inj sized]
            exact clampI32_le _
          · contradiction

/-- The current size only decides whether a resize is planned. -/
theorem plannedViewResize_or_fits {rules : LayoutRules} {windowText : String}
    {parentRect : Rect} {current : Option Rect} {x y width height : Int}
    (planned : plannedViewResize rules windowText parentRect current =
      some (x, y, width, height)) (other : Option Rect) :
    plannedViewResize rules windowText parentRect other = some (x, y, width, height) ∨
      plannedViewResize rules windowText parentRect other = none ∧
        ∃ rect, other = some rect ∧ rect.width = width ∧ rect.height = height := by
  simp only [plannedViewResize] at planned ⊢
  split at planned
  · contradiction
  · split at planned
    · contradiction
    · rename_i large
      split at planned
      · contradiction
      · simp only [Option.some.injEq, Prod.mk.injEq] at planned
        obtain ⟨rfl, rfl, rfl, rfl⟩ := planned
        rw [if_neg large]
        split
        · rename_i fitted
          obtain ⟨rect, rfl, same⟩ := (Option.any_eq_true _ _).mp fitted
          simp only [Bool.and_eq_true, beq_iff_eq] at same
          exact Or.inr ⟨rfl, rect, rfl, same.1, same.2⟩
        · exact Or.inl rfl

end LayoutAdblock.Core
