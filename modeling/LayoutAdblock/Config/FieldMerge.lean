import LayoutAdblock.Config.Settings
import LayoutAdblock.Core.RulesOverlay

namespace LayoutAdblock.Config

open Data LayoutAdblock.Core

/-! # The typed overlays merge field by field -/

namespace AppSettings

theorem accepts_flag {key : String} (member : key ∈ boolKeys) (value : Json) :
    type.reader.accepts key value = (Json.readBool value).isSome := by
  simp [type, accepts, member]

theorem accepts_number {key : String} (member : key ∈ numberKeys) (value : Json) :
    type.reader.accepts key value = (readNumber value).isSome := by
  have apart : ∀ key ∈ numberKeys, key ∉ boolKeys := by decide
  simp [type, accepts, apart key member, member]

theorem accepts_logLevel (value : Json) :
    type.reader.accepts "log_level" value = (Json.readString value).isSome := rfl

/-- The taken entries over those of settings are the settings with these fields. -/
theorem build_laid (base : AppSettings) (entries : List (String × Json)) :
    type.reader.build (type.reader.laid entries fun key => base.fields.lookup key) =
      base.withFields fun key => entries.lookup key := by
  change withFields {} _ = _
  simp only [withFields, AppSettings.mk.injEq]
  -- Each field is laid at its key, with the reader of its type.
  and_intros
  all_goals first
    | refine RecordReader.laid_field accepts_logLevel ?_ _
      simp [fields, Json.lookup_entry]
    | refine RecordReader.laid_field (accepts_flag ?_) ?_ _
      · decide
      · simp [fields, Json.lookup_entry]
    | refine RecordReader.laid_field (accepts_number ?_) ?_ _
      · decide
      · simp [fields, Json.lookup_entry, readNumber_number]

end AppSettings

/-- Both overlays merge field by field: the layout rules over every base that fits its
field types and has a finite ratio, the settings over every base. -/
theorem typed_overlays_fieldwise :
    (∀ (base : LayoutRules) (label : String), base.Sound →
      LayoutRules.reader.MergesFieldwise (fieldWarning label) base.withFields
        fun overrides => mergeTypedOverlay base overrides label) ∧
    (∀ (base : AppSettings) (label : String),
      AppSettings.type.reader.MergesFieldwise (fieldWarning label) base.withFields
        fun overrides => mergeTypedSettings base overrides label) := by
  constructor
  · intro base label sound
    exact RecordReader.mergesFieldwise (LayoutRules.read_fields sound)
      (LayoutRules.build_laid sound)
  · intro base label
    have reads : AppSettings.type.reader.read base.fields = some base :=
      RecordType.read_fields base
    exact RecordReader.mergesFieldwise reads (AppSettings.build_laid base)

theorem default_sound : LayoutRules.default.Sound := by
  constructor <;> decide

/-- An ill-typed field keeps its default beside a well-typed one and an unknown one. -/
theorem typed_overlays_fieldwise_default :
    (let entries := [("banner_max_height_px", Json.null), ("main_view_prefix", .string "View"),
       ("unknown", .null)]
     let merged := mergeTypedOverlay .default (.object entries) "rules"
     merged.1.mainViewPrefix = "View" ∧ merged.1.bannerMaxHeightPx = 260 ∧
       "banner_max_height_px" ∈ LayoutRules.reader.keys ∧
       merged.2.Perm (mergeTypedOverlay .default (.object entries.reverse) "rules").2) ∧
    (mergeTypedSettings {} (.object [("log_level", .null), ("enabled", .bool false)]) "s").1 =
      { enabled := false } := by
  obtain ⟨rules, settings⟩ := typed_overlays_fieldwise
  have overRules := rules .default "rules" default_sound
  have record : ∀ entries : List (String × Json), (entries.map Prod.fst).Nodup →
      (mergeTypedOverlay .default (.object entries) "rules").1 =
        LayoutRules.withFields .default fun key => entries.lookup key :=
    fun _ distinct => overRules.record distinct
  constructor
  · intro entries merged
    have distinct : (entries.map Prod.fst).Nodup := by decide
    have shown : (LayoutRules.withFields .default fun key => entries.lookup key).mainViewPrefix =
        "View" := by
      decide
    have tallest : (LayoutRules.withFields .default fun key =>
        entries.lookup key).bannerMaxHeightPx = 260 := by
      decide
    dsimp only [merged]
    rw [record entries distinct]
    refine ⟨shown, tallest, by decide, ?_⟩
    exact (overRules.order distinct (List.reverse_perm entries).symm).2
  · have distinct : (([("log_level", Json.null), ("enabled", .bool false)] :
        List (String × Json)).map Prod.fst).Nodup := by decide
    exact ((settings {} "s").record distinct).trans (by decide)

end LayoutAdblock.Config
