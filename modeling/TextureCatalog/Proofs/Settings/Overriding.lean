import TextureCatalog.Settings.Basic

/-!
# Overrides of a single search

The filter of a search has switches beside its values, and overrides change both.  This module shows
that they stay in step: overriding is the same as editing the settings before the search, and which
textures pass can be said by the edited values alone, without the switches.
-/

namespace TextureCatalog

variable {filter : Filter} {texture : Texture}

/-! ## What the filters keep -/

/-- The classes of a texture by how it is imported.  A normal map is neither in the linear class nor
in that of sRGB, whatever its color space. -/
inductive ColorSpace.Includes (info : ImportInfo) : ColorSpace → Prop
  | all : Includes info .all
  | srgb : info.isNormalMap = false → info.isLinear = false → Includes info .srgb
  | linear : info.isNormalMap = false → info.isLinear = true → Includes info .linear
  | normalMaps : info.isNormalMap = true → Includes info .normalMaps

theorem ColorSpace.contains_iff {colorSpace : ColorSpace} {info : ImportInfo} :
    colorSpace.contains info = true ↔ colorSpace.Includes info := by
  constructor
  · intro h
    cases colorSpace with
    | all => exact .all
    | srgb =>
        simp only [contains, Bool.and_eq_true, Bool.not_eq_true'] at h
        exact .srgb h.2 h.1
    | linear =>
        simp only [contains, Bool.and_eq_true, Bool.not_eq_true'] at h
        exact .linear h.2 h.1
    | normalMaps => exact .normalMaps h
  · intro h
    cases h with
    | all => rfl
    | srgb hnormal hlinear => simp [contains, hnormal, hlinear]
    | linear hnormal hlinear => simp [contains, hnormal, hlinear]
    | normalMaps hnormal => exact hnormal

namespace Filter

/-- The larger dimension lies between the bounds, of which the lower one counts as zero if it is
negative, and the upper one as the lower one if it is below it. -/
def InRange (minimum maximum : Int) (texture : Texture) : Prop :=
  max 0 minimum ≤ texture.maxDimension ∧ texture.maxDimension ≤ max (max 0 minimum) maximum

/-- A blank format text is found in every pixel format. -/
def HasFormat (format : String) (texture : Texture) : Prop :=
  Text.isBlankText format = true ∨
    Text.lower format.toList <:+: Text.lower texture.pixelFormat.toList

theorem resolutionPasses_iff :
    filter.resolutionPasses texture = true ↔
      InRange filter.minResolution filter.maxResolution texture := by
  rw [resolutionPasses, InRange, bounds, Bool.and_eq_true, decide_eq_true_iff, decide_eq_true_iff]

theorem formatPasses_iff :
    filter.formatPasses texture = true ↔ HasFormat filter.format texture := by
  rw [formatPasses, HasFormat, Bool.or_eq_true, Text.occursIn_iff]

/-- A test behind a switch that is on. -/
theorem not_or_eq_true_iff {switch test : Bool} :
    (!switch || test) = true ↔ (switch = true → test = true) := by
  cases switch <;> simp

theorem passes_iff :
    filter.passes texture = true ↔
      (filter.byResolution = true → InRange filter.minResolution filter.maxResolution texture) ∧
      (filter.byCrunch = true → texture.importInfo.isCrunched = filter.onlyCrunched) ∧
      (filter.byColorSpace = true → filter.colorSpace.Includes texture.importInfo) ∧
      (filter.byFormat = true → HasFormat filter.format texture) := by
  simp only [passes, Bool.and_eq_true, not_or_eq_true_iff, resolutionPasses_iff, beq_iff_eq,
    ColorSpace.contains_iff, formatPasses_iff, and_assoc]

/-- The switches of color space and format are on exactly if their values exclude something. -/
structure InStep (filter : Filter) : Prop where
  byColorSpace_iff : filter.byColorSpace = true ↔ filter.colorSpace ≠ .all
  byFormat_iff : filter.byFormat = true ↔ Text.isBlankText filter.format = false

/-- A switch that is off changes nothing if the value behind it excludes nothing. -/
theorem InStep.passes_iff (h : filter.InStep) :
    filter.passes texture = true ↔
      (filter.byResolution = true → InRange filter.minResolution filter.maxResolution texture) ∧
      (filter.byCrunch = true → texture.importInfo.isCrunched = filter.onlyCrunched) ∧
      filter.colorSpace.Includes texture.importInfo ∧ HasFormat filter.format texture := by
  have hcolorSpace :
      (filter.byColorSpace = true → filter.colorSpace.Includes texture.importInfo) ↔
        filter.colorSpace.Includes texture.importInfo := by
    refine ⟨fun himp => ?_, fun hincludes _ => hincludes⟩
    by_cases hall : filter.colorSpace = .all
    · exact hall ▸ .all
    · exact himp (h.byColorSpace_iff.2 hall)
  have hformat : (filter.byFormat = true → HasFormat filter.format texture) ↔
      HasFormat filter.format texture := by
    refine ⟨fun himp => ?_, fun hhas _ => hhas⟩
    cases hblank : Text.isBlankText filter.format with
    | true => exact .inl hblank
    | false => exact himp (h.byFormat_iff.2 hblank)
  rw [Filter.passes_iff, hcolorSpace, hformat]

end Filter

/-! ## Settings with overrides -/

namespace Settings

/-- The settings in which the given values stand in the place of the old ones. -/
def edited (settings : Settings) (overrides : Overrides) : Settings :=
  { settings with
    minResolution := overrides.minResolution.getD settings.minResolution
    maxResolution := overrides.maxResolution.getD settings.maxResolution
    colorSpace := overrides.colorSpace.getD settings.colorSpace
    format := overrides.format.getD settings.format }

/-- The overrides for which there is no setting. -/
def Overrides.beyondSettings (overrides : Overrides) : Overrides :=
  { noResolutionFilter := overrides.noResolutionFilter, crunched := overrides.crunched }

/-- Every override reaches its own part of the filter, and nothing else does. -/
theorem filterWith_eq (settings : Settings) (overrides : Overrides) :
    settings.filterWith overrides =
      { (settings.edited overrides).filter with
        byResolution := !overrides.noResolutionFilter
        byCrunch := overrides.crunched.isSome
        onlyCrunched := overrides.crunched.getD true } := by
  obtain ⟨minimum, maximum, unlimited, crunched, colorSpace, format⟩ := overrides
  cases minimum <;> cases maximum <;> cases unlimited <;> cases crunched <;> cases colorSpace <;>
    cases format <;> rfl

theorem edited_beyondSettings (settings : Settings) (overrides : Overrides) :
    settings.edited overrides.beyondSettings = settings := rfl

theorem inStep_filterWith (settings : Settings) (overrides : Overrides) :
    (settings.filterWith overrides).InStep := by
  rw [filterWith_eq]
  constructor <;> simp [filter]

/-- What settings and the overrides beyond them ask of a texture, without a word about switches. -/
structure Wants (settings : Settings) (overrides : Overrides) (texture : Texture) : Prop where
  resolution : overrides.noResolutionFilter = true ∨
    Filter.InRange settings.minResolution settings.maxResolution texture
  crunched : ∀ crunched ∈ overrides.crunched, texture.importInfo.isCrunched = crunched
  colorSpace : settings.colorSpace.Includes texture.importInfo
  format : Filter.HasFormat settings.format texture

theorem passes_filterWith_iff {settings : Settings} {overrides : Overrides} :
    (settings.filterWith overrides).passes texture = true ↔
      (settings.edited overrides).Wants overrides texture := by
  rw [(inStep_filterWith settings overrides).passes_iff, filterWith_eq]
  have hresolution : ∀ range : Prop, ((!overrides.noResolutionFilter) = true → range) ↔
      (overrides.noResolutionFilter = true ∨ range) := by
    intro range
    cases overrides.noResolutionFilter <;> simp
  have hcrunched : (overrides.crunched.isSome = true →
      texture.importInfo.isCrunched = overrides.crunched.getD true) ↔
      ∀ crunched ∈ overrides.crunched, texture.importInfo.isCrunched = crunched := by
    cases overrides.crunched <;> simp
  rw [hresolution, hcrunched]
  constructor
  · rintro ⟨hrange, hcrunch, hincludes, hformat⟩
    exact ⟨hrange, hcrunch, hincludes, hformat⟩
  · rintro ⟨hrange, hcrunch, hincludes, hformat⟩
    exact ⟨hrange, hcrunch, hincludes, hformat⟩

/-- Overriding settings for a search is the same as editing them and searching with the overrides
that are no settings.  What passes is told by the values in effect alone: a value that excludes
nothing switches a filter off, whether it was configured or overrides one that was on. -/
theorem filterWith_is_filter_of_edited (settings : Settings) (overrides : Overrides) :
    settings.filterWith overrides =
        (settings.edited overrides).filterWith overrides.beyondSettings ∧
      ∀ texture : Texture, (settings.filterWith overrides).passes texture = true ↔
        (settings.edited overrides).Wants overrides texture := by
  refine ⟨?_, fun texture => passes_filterWith_iff⟩
  rw [filterWith_eq, filterWith_eq (settings.edited overrides), edited_beyondSettings]
  rfl

/-- Blank text and the class of all textures take back what is configured. -/
example :
    let settings : Settings := { colorSpace := .linear, format := "BC7", maxResolution := 512 }
    let texture : Texture := ⟨"", "", "", "Oak", "", 2048, 64, "RGBA32", {}⟩
    settings.filter.passes texture = false ∧
      (settings.filterWith
        { maxResolution := some 2048, colorSpace := some .all, format := some " \t" }).passes
          texture = true := by
  decide +kernel

end Settings

end TextureCatalog
