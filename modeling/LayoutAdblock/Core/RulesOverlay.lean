import LayoutAdblock.Core.Rules
import LayoutAdblock.Data.Overlay

namespace LayoutAdblock.Core

open Data

/-! # The rules file

`LayoutRules` with the reader and the writer that serde derives, and the typed
overlay that lays a rules file over them.
-/

namespace LayoutRules

/-- The fields of a rules file that hold lists of texts. -/
def textsKeys : List String :=
  ["main_window_classes", "ad_candidate_classes", "main_window_titles",
   "chrome_legacy_title_contains", "chrome_widget_prefixes", "popup_ad_classes",
   "popup_host_text_contains", "aggressive_ad_tokens"]

def textKeys : List String :=
  ["main_view_prefix", "lock_view_prefix", "eva_child_class", "custom_scroll_prefix",
   "chrome_legacy_title"]

def flagKeys : List String :=
  ["popup_host_require_empty_text", "hide_bottom_banner_without_token",
   "close_empty_eva_child_requires_ad_signal"]

/-- The fields that hold lengths or a depth, which are `i32` in the program. -/
def pixelKeys : List String :=
  ["popup_search_depth", "banner_min_height_px", "banner_max_height_px",
   "banner_bottom_margin_px", "layout_shadow_padding_px", "main_view_padding_px"]

def readTexts : Json → Option (List String) := Json.readList Json.readString

def readFloat : Json → Option Float
  | .number value => some (Float.ofInt value)
  | .decimal value => some value
  | _ => none

/-- Whether a value deserializes at the type of the field at a key. The two fields without a
list of their own are the ticks and the ratio. -/
def accepts (key : String) (value : Json) : Bool :=
  if key ∈ textsKeys then (readTexts value).isSome
  else if key ∈ textKeys then (Json.readString value).isSome
  else if key ∈ flagKeys then (Json.readBool value).isSome
  else if key ∈ pixelKeys then (Json.readInt Json.i32 value).isSome
  else if key = "weak_signal_confirm_ticks" then (Json.readInt Json.i64 value).isSome
  else (readFloat value).isSome

/-- The rules whose fields are those that deserialize, and the `missing` ones otherwise. -/
def withFields (missing : LayoutRules) (lookup : String → Option Json) : LayoutRules :=
  let texts := fun key own => ((lookup key).bind readTexts).getD own
  let text := fun key own => ((lookup key).bind Json.readString).getD own
  let flag := fun key own => ((lookup key).bind Json.readBool).getD own
  let pixels := fun key own => ((lookup key).bind (Json.readInt Json.i32)).getD own
  { mainWindowClasses := texts "main_window_classes" missing.mainWindowClasses
    adCandidateClasses := texts "ad_candidate_classes" missing.adCandidateClasses
    mainWindowTitles := texts "main_window_titles" missing.mainWindowTitles
    mainViewPrefix := text "main_view_prefix" missing.mainViewPrefix
    lockViewPrefix := text "lock_view_prefix" missing.lockViewPrefix
    evaChildClass := text "eva_child_class" missing.evaChildClass
    customScrollPrefix := text "custom_scroll_prefix" missing.customScrollPrefix
    chromeLegacyTitle := text "chrome_legacy_title" missing.chromeLegacyTitle
    chromeLegacyTitleContains :=
      texts "chrome_legacy_title_contains" missing.chromeLegacyTitleContains
    chromeWidgetPrefixes := texts "chrome_widget_prefixes" missing.chromeWidgetPrefixes
    popupAdClasses := texts "popup_ad_classes" missing.popupAdClasses
    popupSearchDepth := pixels "popup_search_depth" missing.popupSearchDepth
    popupHostTextContains := texts "popup_host_text_contains" missing.popupHostTextContains
    popupHostRequireEmptyText :=
      flag "popup_host_require_empty_text" missing.popupHostRequireEmptyText
    aggressiveAdTokens := texts "aggressive_ad_tokens" missing.aggressiveAdTokens
    bannerMinHeightPx := pixels "banner_min_height_px" missing.bannerMinHeightPx
    bannerMaxHeightPx := pixels "banner_max_height_px" missing.bannerMaxHeightPx
    bannerMinWidthRatio :=
      ((lookup "banner_min_width_ratio").bind readFloat).getD missing.bannerMinWidthRatio
    bannerBottomMarginPx := pixels "banner_bottom_margin_px" missing.bannerBottomMarginPx
    hideBottomBannerWithoutToken :=
      flag "hide_bottom_banner_without_token" missing.hideBottomBannerWithoutToken
    closeEmptyEvaChildRequiresAdSignal :=
      flag "close_empty_eva_child_requires_ad_signal" missing.closeEmptyEvaChildRequiresAdSignal
    layoutShadowPaddingPx := pixels "layout_shadow_padding_px" missing.layoutShadowPaddingPx
    mainViewPaddingPx := pixels "main_view_padding_px" missing.mainViewPaddingPx
    weakSignalConfirmTicks :=
      ((lookup "weak_signal_confirm_ticks").bind (Json.readInt Json.i64)).getD
        missing.weakSignalConfirmTicks }

/-- What serde derives for reading the rules: a missing field has its default. -/
def reader : RecordReader LayoutRules where
  keys := textsKeys ++ textKeys ++ flagKeys ++ pixelKeys ++
    ["weak_signal_confirm_ticks", "banner_min_width_ratio"]
  accepts := accepts
  build := withFields .default
  build_congr := by
    intro first second same
    simp [textsKeys, textKeys, flagKeys, pixelKeys] at same
    simp [withFields, same]

def texts (values : List String) : Json := .array (values.map .string)

/-- A float that is no number of the JSON grammar is written as `null`. -/
def float (value : Float) : Json := if value.isFinite then .decimal value else .null

/-- The entries of the written object, in the order of their keys. -/
def fields (rules : LayoutRules) : List (String × Json) :=
  [("ad_candidate_classes", texts rules.adCandidateClasses),
   ("aggressive_ad_tokens", texts rules.aggressiveAdTokens),
   ("banner_bottom_margin_px", .number rules.bannerBottomMarginPx),
   ("banner_max_height_px", .number rules.bannerMaxHeightPx),
   ("banner_min_height_px", .number rules.bannerMinHeightPx),
   ("banner_min_width_ratio", float rules.bannerMinWidthRatio),
   ("chrome_legacy_title", .string rules.chromeLegacyTitle),
   ("chrome_legacy_title_contains", texts rules.chromeLegacyTitleContains),
   ("chrome_widget_prefixes", texts rules.chromeWidgetPrefixes),
   ("close_empty_eva_child_requires_ad_signal", .bool rules.closeEmptyEvaChildRequiresAdSignal),
   ("custom_scroll_prefix", .string rules.customScrollPrefix),
   ("eva_child_class", .string rules.evaChildClass),
   ("hide_bottom_banner_without_token", .bool rules.hideBottomBannerWithoutToken),
   ("layout_shadow_padding_px", .number rules.layoutShadowPaddingPx),
   ("lock_view_prefix", .string rules.lockViewPrefix),
   ("main_view_padding_px", .number rules.mainViewPaddingPx),
   ("main_view_prefix", .string rules.mainViewPrefix),
   ("main_window_classes", texts rules.mainWindowClasses),
   ("main_window_titles", texts rules.mainWindowTitles),
   ("popup_ad_classes", texts rules.popupAdClasses),
   ("popup_host_require_empty_text", .bool rules.popupHostRequireEmptyText),
   ("popup_host_text_contains", texts rules.popupHostTextContains),
   ("popup_search_depth", .number rules.popupSearchDepth),
   ("weak_signal_confirm_ticks", .number rules.weakSignalConfirmTicks)]

/-- The integers fit their types, and the ratio is a finite float. -/
structure Sound (rules : LayoutRules) : Prop where
  popupSearchDepth : Json.i32.Holds rules.popupSearchDepth
  bannerMinHeightPx : Json.i32.Holds rules.bannerMinHeightPx
  bannerMaxHeightPx : Json.i32.Holds rules.bannerMaxHeightPx
  bannerBottomMarginPx : Json.i32.Holds rules.bannerBottomMarginPx
  layoutShadowPaddingPx : Json.i32.Holds rules.layoutShadowPaddingPx
  mainViewPaddingPx : Json.i32.Holds rules.mainViewPaddingPx
  weakSignalConfirmTicks : Json.i64.Holds rules.weakSignalConfirmTicks
  bannerMinWidthRatio : rules.bannerMinWidthRatio.isFinite = true

theorem readTexts_texts (values : List String) : readTexts (texts values) = some values := by
  have each : ∀ text ∈ values, Json.readString (.string text) = some text :=
    fun text _ => Json.readString_string text
  have reads := Json.readList_array each
  rw [List.map_id'] at reads
  exact reads

theorem readFloat_float {value : Float} (finite : value.isFinite = true) :
    readFloat (float value) = some value := by
  rw [float, if_pos finite, readFloat]

variable {base : LayoutRules}

/-- Sound rules are read back. -/
theorem read_fields (sound : base.Sound) : reader.read base.fields = some base := by
  have ratio := readFloat_float sound.bannerMinWidthRatio
  have accepted : ∀ key ∈ reader.keys, (base.fields.lookup key).all (reader.accepts key) = true := by
    simp [reader, textsKeys, textKeys, flagKeys, pixelKeys, fields, Json.lookup_entry, accepts,
      readTexts_texts, ratio, sound.popupSearchDepth, sound.bannerMinHeightPx,
      sound.bannerMaxHeightPx, sound.bannerBottomMarginPx, sound.layoutShadowPaddingPx,
      sound.mainViewPaddingPx, sound.weakSignalConfirmTicks]
  rw [RecordReader.read_of_accepted accepted]
  congr 1
  simp [reader, withFields, fields, Json.lookup_entry, readTexts_texts, ratio,
    sound.popupSearchDepth, sound.bannerMinHeightPx, sound.bannerMaxHeightPx,
    sound.bannerBottomMarginPx, sound.layoutShadowPaddingPx, sound.mainViewPaddingPx,
    sound.weakSignalConfirmTicks]

theorem accepts_texts {key : String} (member : key ∈ textsKeys) (value : Json) :
    reader.accepts key value = (readTexts value).isSome := by
  simp [reader, accepts, member]

theorem accepts_text {key : String} (member : key ∈ textKeys) (value : Json) :
    reader.accepts key value = (Json.readString value).isSome := by
  have apart : ∀ key ∈ textKeys, key ∉ textsKeys := by decide
  simp [reader, accepts, apart key member, member]

theorem accepts_flag {key : String} (member : key ∈ flagKeys) (value : Json) :
    reader.accepts key value = (Json.readBool value).isSome := by
  have apart : ∀ key ∈ flagKeys, key ∉ textsKeys ∧ key ∉ textKeys := by decide
  simp [reader, accepts, apart key member, member]

theorem accepts_pixels {key : String} (member : key ∈ pixelKeys) (value : Json) :
    reader.accepts key value = (Json.readInt Json.i32 value).isSome := by
  have apart : ∀ key ∈ pixelKeys, key ∉ textsKeys ∧ key ∉ textKeys ∧ key ∉ flagKeys := by decide
  simp [reader, accepts, apart key member, member]

theorem accepts_ticks (value : Json) :
    reader.accepts "weak_signal_confirm_ticks" value = (Json.readInt Json.i64 value).isSome := rfl

theorem accepts_ratio (value : Json) :
    reader.accepts "banner_min_width_ratio" value = (readFloat value).isSome := rfl

/-- The taken entries over those of sound rules are the rules with these fields. -/
theorem build_laid (sound : base.Sound) (entries : List (String × Json)) :
    reader.build (reader.laid entries fun key => base.fields.lookup key) =
      base.withFields fun key => entries.lookup key := by
  have ratio := readFloat_float sound.bannerMinWidthRatio
  change withFields .default _ = _
  simp only [withFields, LayoutRules.mk.injEq]
  -- Each field is laid at its key, with the reader of its type.
  and_intros
  all_goals first
    | refine RecordReader.laid_field accepts_ticks ?_ _
      simp [fields, Json.lookup_entry, sound.weakSignalConfirmTicks]
    | refine RecordReader.laid_field accepts_ratio ?_ _
      simp [fields, Json.lookup_entry, ratio]
    | refine RecordReader.laid_field (accepts_texts ?_) ?_ _
      · decide
      · simp [fields, Json.lookup_entry, readTexts_texts]
    | refine RecordReader.laid_field (accepts_text ?_) ?_ _
      · decide
      · simp [fields, Json.lookup_entry]
    | refine RecordReader.laid_field (accepts_flag ?_) ?_ _
      · decide
      · simp [fields, Json.lookup_entry]
    | refine RecordReader.laid_field (accepts_pixels ?_) ?_ _
      · decide
      · simp [fields, Json.lookup_entry, sound.popupSearchDepth, sound.bannerMinHeightPx,
          sound.bannerMaxHeightPx, sound.bannerBottomMarginPx, sound.layoutShadowPaddingPx,
          sound.mainViewPaddingPx]

end LayoutRules

/-- What both merges say of an entry that does not have the type of its field; the label
is the file name. -/
def fieldWarning (label key : String) : String :=
  s!"{label} 필드 '{key}' 타입이 올바르지 않아 기존/기본값을 유지합니다."

/-- `merge_typed_overlay` for the layout rules, one field at a time. A value of the wrong
type leaves its field as it was and is reported. -/
def mergeTypedOverlay (base : LayoutRules) (overrides : Json) (label : String) :
    LayoutRules × List String :=
  LayoutRules.reader.overlay (fieldWarning label) base.fields base overrides

end LayoutAdblock.Core
