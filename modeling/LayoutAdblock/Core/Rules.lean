import LayoutAdblock.Core.Model

namespace LayoutAdblock.Core

/-- The two switches of the tray menu. The evaluator reads the second only, since a worker
that is switched off evaluates nothing. -/
structure LayoutSettings where
  enabled : Bool := true
  aggressiveMode : Bool := true
deriving DecidableEq, Repr

/-- The banner width ratio is an `f64` of the rules file; it is compared as a
`Float` and nothing here depends on its value. -/
structure LayoutRules where
  mainWindowClasses : List String
  adCandidateClasses : List String
  mainWindowTitles : List String
  mainViewPrefix : String
  lockViewPrefix : String
  evaChildClass : String
  customScrollPrefix : String
  chromeLegacyTitle : String
  chromeLegacyTitleContains : List String
  chromeWidgetPrefixes : List String
  popupAdClasses : List String
  popupSearchDepth : Int
  popupHostTextContains : List String
  popupHostRequireEmptyText : Bool
  aggressiveAdTokens : List String
  bannerMinHeightPx : Int
  bannerMaxHeightPx : Int
  bannerMinWidthRatio : Float
  bannerBottomMarginPx : Int
  hideBottomBannerWithoutToken : Bool
  closeEmptyEvaChildRequiresAdSignal : Bool
  layoutShadowPaddingPx : Int
  mainViewPaddingPx : Int
  weakSignalConfirmTicks : Int

/-- `LayoutRules::default()`: every field takes its serde default. These are the rules of a
program without a rules file. -/
def LayoutRules.default : LayoutRules where
  mainWindowClasses := ["EVA_Window_Dblclk", "EVA_Window"]
  adCandidateClasses := ["EVA_Window_Dblclk", "EVA_Window"]
  mainWindowTitles := ["카카오톡", "KakaoTalk"]
  mainViewPrefix := "OnlineMainView"
  lockViewPrefix := "LockModeView"
  evaChildClass := "EVA_ChildWindow"
  customScrollPrefix := "_EVA_"
  chromeLegacyTitle := "Chrome Legacy Window"
  chromeLegacyTitleContains := ["Chrome Legacy Window"]
  chromeWidgetPrefixes := ["Chrome_WidgetWin_"]
  popupAdClasses := ["AdFitWebView"]
  popupSearchDepth := 2
  popupHostTextContains := []
  popupHostRequireEmptyText := true
  aggressiveAdTokens := ["Ad", "AdFit", "Advertisement", "광고"]
  bannerMinHeightPx := 40
  bannerMaxHeightPx := 260
  bannerMinWidthRatio := 0.75
  bannerBottomMarginPx := 40
  hideBottomBannerWithoutToken := false
  closeEmptyEvaChildRequiresAdSignal := true
  layoutShadowPaddingPx := 2
  mainViewPaddingPx := 31
  weakSignalConfirmTicks := 2

variable [Unicode]

/-- The tokens are lowercased once for a whole walk over a subtree, not at every node. -/
def LayoutRules.aggressiveAdTokensLc (rules : LayoutRules) : List String :=
  rules.aggressiveAdTokens.map Unicode.toLowercase

end LayoutAdblock.Core
