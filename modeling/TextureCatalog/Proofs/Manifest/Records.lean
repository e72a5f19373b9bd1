import Mathlib.Data.List.Basic
import Mathlib.Data.List.Forall2
import TextureCatalog.Proofs.Manifest.Conformance

/-!
# Textures of loaded manifests

What can be relied on for every texture that a manifest gives: the ranges of its numbers and labels,
how it is known and shown, and how its import facts come about.  The schema bounds the numbers, the
defaults fill in the texts, and the facts are derived from both.
-/

namespace TextureCatalog

/-! ## Import facts -/

namespace ImportInfo

variable {name assetPath : String} {importer : Option Importer}

/-- A texture whose importer declares it a normal map. -/
def DeclaredNormalMap (importer : Option Importer) : Prop :=
  ∃ settings ∈ importer, settings.textureType = "normal_map"

/-- The import facts of a texture with an asset path.  What name and path suggest decides only about
normal maps, and about the color space only where the importer does not declare a normal map. -/
structure FollowsFrom (name assetPath : String) (importer : Option Importer) (info : ImportInfo) :
    Prop where
  isNormalMap_iff : info.isNormalMap = true ↔
    DeclaredNormalMap importer ∨ looksLikeNormalMap name assetPath = true
  isLinear_iff : info.isLinear = true ↔
    (∃ settings ∈ importer, settings.srgb = false) ∨
      (looksLikeNormalMap name assetPath = true ∧ ¬ DeclaredNormalMap importer)
  isCrunched_iff : info.isCrunched = true ↔ ∃ settings ∈ importer, settings.crunched = true
  crunchQuality_eq : info.crunchQuality = (importer.map (·.compressionQuality)).getD 0
  compressionLabel_eq :
    info.compressionLabel = ((importer.bind (·.compression)).map (·.label)).getD ""

theorem ofImporter_isNormalMap_iff :
    (ofImporter importer).isNormalMap = true ↔ DeclaredNormalMap importer := by
  cases importer <;> simp [ofImporter, DeclaredNormalMap, Importer.normalMapType]

theorem ofImporter_isLinear_iff :
    (ofImporter importer).isLinear = true ↔ ∃ settings ∈ importer, settings.srgb = false := by
  cases importer <;> simp [ofImporter]

theorem ofImporter_isCrunched_iff :
    (ofImporter importer).isCrunched = true ↔ ∃ settings ∈ importer, settings.crunched = true := by
  cases importer <;> simp [ofImporter]

theorem ofImporter_crunchQuality :
    (ofImporter importer).crunchQuality = (importer.map (·.compressionQuality)).getD 0 := by
  cases importer <;> rfl

theorem ofImporter_compressionLabel :
    (ofImporter importer).compressionLabel =
      ((importer.bind (·.compression)).map (·.label)).getD "" := by
  cases importer <;> rfl

theorem derive_of_empty : derive name "" importer = {} := rfl

theorem derive_of_ne_empty (h : assetPath ≠ "") :
    derive name assetPath importer =
      if !(ofImporter importer).isNormalMap && looksLikeNormalMap name assetPath then
        { ofImporter importer with isNormalMap := true, isLinear := true }
      else ofImporter importer := by
  rw [derive, if_neg (by simpa using h)]

theorem followsFrom_derive (h : assetPath ≠ "") :
    FollowsFrom name assetPath importer (derive name assetPath importer) := by
  have hnormal : (ofImporter importer).isNormalMap = true ↔ DeclaredNormalMap importer :=
    ofImporter_isNormalMap_iff
  rw [derive_of_ne_empty h]
  -- The guess from name and path changes something only where nothing was declared.
  split
  · next hguess =>
    rw [Bool.and_eq_true, Bool.not_eq_true'] at hguess
    obtain ⟨hundeclared, hlooks⟩ := hguess
    rw [← Bool.not_eq_true, hnormal] at hundeclared
    exact ⟨by simp [hlooks], by simp [hlooks, hundeclared], ofImporter_isCrunched_iff,
      ofImporter_crunchQuality, ofImporter_compressionLabel⟩
  · next hguess =>
    rw [Bool.and_eq_true, Bool.not_eq_true', not_and, ← Bool.not_eq_true, hnormal] at hguess
    refine ⟨?_, ?_, ofImporter_isCrunched_iff, ofImporter_crunchQuality,
      ofImporter_compressionLabel⟩
    · rw [hnormal]
      exact ⟨Or.inl, fun hor => hor.elim id fun hlooks =>
        Classical.not_not.1 fun hundeclared => hguess hundeclared hlooks⟩
    · rw [ofImporter_isLinear_iff]
      exact ⟨Or.inl, fun hor => hor.elim id fun hboth => absurd hboth.1 (hguess hboth.2)⟩

/-- The quality comes from the importer or is zero. -/
theorem derive_crunchQuality_cases :
    (derive name assetPath importer).crunchQuality = 0 ∨
      ∃ settings ∈ importer,
        (derive name assetPath importer).crunchQuality = settings.compressionQuality := by
  by_cases h : assetPath = ""
  · exact .inl (h ▸ rfl)
  · rw [(followsFrom_derive h).crunchQuality_eq]
    cases importer <;> simp

theorem derive_compressionLabel_mem :
    (derive name assetPath importer).compressionLabel ∈
      ["", "None", "Low Quality", "Normal Quality", "High Quality"] := by
  by_cases h : assetPath = ""
  · rw [h, derive_of_empty]
    exact List.mem_cons_self
  · rw [(followsFrom_derive h).compressionLabel_eq]
    cases importer.bind (·.compression) with
    | none => exact List.mem_cons_self
    | some compression => cases compression <;> decide

end ImportInfo

/-! ## Textures of slots -/

namespace Manifest

open Document (Members)

/-- The members of a slot that holds a texture, and those of the texture. -/
def filledSlot? : Document → Option (Members × Members)
  | .table slot =>
    match Members.get? slot "texture" with
    | some (.table members) => some (slot, members)
    | _ => none
  | _ => none

/-- The slots of a manifest that hold a texture, in their order. -/
def filledSlots : Document → List (Members × Members)
  | .table members => (slotsOf members).filterMap filledSlot?
  | _ => []

/-- What holds of a texture whatever manifest it was loaded from. -/
structure WellFormed (texture : Texture) : Prop where
  width_nonneg : 0 ≤ texture.width
  height_nonneg : 0 ≤ texture.height
  crunchQuality_nonneg : 0 ≤ texture.importInfo.crunchQuality
  crunchQuality_le : texture.importInfo.crunchQuality ≤ 100
  compressionLabel_mem : texture.importInfo.compressionLabel ∈
    ["", "None", "Low Quality", "Normal Quality", "High Quality"]
  propertyName_of_displayName : texture.displayName = "" → texture.propertyName = ""

/-- A text that is given, or empty because it is missing. -/
def Gives (value : Option Document) (text : String) : Prop :=
  value = some (.text text) ∨ IsMissing value ∧ text = ""

/-- The first text that is not empty, if there is one. -/
def firstText (texts : List String) : String :=
  (texts.find? (· != "")).getD ""

/-- How a texture comes from the members of its slot and of the texture in it. -/
structure MadeFrom (slot members : Members) (texture : Texture) : Prop where
  propertyName : slot.get? "property" = some (.text texture.propertyName)
  displayName : ∃ given, Gives (slot.get? "display_name") given ∧
    texture.displayName = firstText [given, texture.propertyName]
  name : members.get? "name" = some (.text texture.name)
  assetPath : Gives (members.get? "path") texture.assetPath
  width : members.get? "width" = some (.integer texture.width)
  height : members.get? "height" = some (.integer texture.height)
  pixelFormat : Gives (members.get? "format") texture.pixelFormat
  id : ∃ given, Gives (members.get? "id") given ∧
    texture.id = firstText [given, texture.assetPath, texture.name]
  noAsset : texture.assetPath = "" → texture.importInfo = {}
  asset : texture.assetPath ≠ "" →
    texture.importInfo.FollowsFrom texture.name texture.assetPath
      (importerOf? (members.get? "importer"))

variable {slot members : Members}

theorem textOf_of_isText {value : Option Document} {default : String} (h : IsText value) :
    value = some (.text (textOf default value)) := by
  obtain ⟨text, rfl⟩ := h
  rfl

theorem gives_textOf {value : Option Document} (h : IsMissing value ∨ IsText value) :
    Gives value (textOf "" value) := by
  rcases h with (rfl | rfl) | htext
  · exact .inr ⟨.inl rfl, rfl⟩
  · exact .inr ⟨.inr rfl, rfl⟩
  · exact .inl (textOf_of_isText htext)

theorem integerOf_of_isSize {value : Option Document} (h : IsSize value) :
    value = some (.integer (integerOf 0 value)) ∧ 0 ≤ integerOf 0 value := by
  obtain ⟨size, rfl, hsize⟩ := h
  exact ⟨rfl, hsize⟩

theorem eq_empty_of_firstNonEmpty {text other : String} (h : firstNonEmpty text other = "") :
    other = "" := by
  rw [firstNonEmpty] at h
  split at h
  · exact h
  · next hgiven => exact absurd (String.isEmpty_iff.2 h) hgiven

theorem firstNonEmpty_eq_firstText (text other : String) :
    firstNonEmpty text other = firstText [text, other] := by
  by_cases htext : text = ""
  · by_cases hother : other = "" <;> simp [firstNonEmpty, firstText, htext, hother]
  · simp [firstNonEmpty, firstText, htext]

theorem firstNonEmpty_firstNonEmpty (text other last : String) :
    firstNonEmpty text (firstNonEmpty other last) = firstText [text, other, last] := by
  by_cases htext : text = ""
  · rw [firstNonEmpty_eq_firstText other last]
    simp [firstNonEmpty, firstText, htext]
  · simp [firstNonEmpty, firstText, htext]

/-- The quality in importer settings that conform is a percentage, and so is its default. -/
theorem compressionQuality_importerOf {inner : Members} (h : ImporterConforms inner) :
    0 ≤ (importerOf inner).compressionQuality ∧ (importerOf inner).compressionQuality ≤ 100 := by
  rcases h.quality with hnone | ⟨value, hvalue, hrange⟩
  · simp [importerOf, hnone, integerOf]
  · simpa [importerOf, hvalue, integerOf] using hrange

theorem compressionQuality_of_conforms (h : TextureConforms members) {settings : Importer}
    (hsettings : settings ∈ importerOf? (members.get? "importer")) :
    0 ≤ settings.compressionQuality ∧ settings.compressionQuality ≤ 100 := by
  rcases h.importer with (hnone | hnull) | ⟨inner, hinner, hconforms⟩
  · simp [hnone, importerOf?] at hsettings
  · simp [hnull, importerOf?] at hsettings
  · rw [hinner, importerOf?, Option.mem_some_iff] at hsettings
    exact hsettings ▸ compressionQuality_importerOf hconforms

theorem wellFormed_textureOf (h : TextureConforms members) :
    WellFormed (textureOf slot members) := by
  have hquality : 0 ≤ (textureOf slot members).importInfo.crunchQuality ∧
      (textureOf slot members).importInfo.crunchQuality ≤ 100 := by
    rcases ImportInfo.derive_crunchQuality_cases with hzero | ⟨settings, hsettings, hquality⟩
    · rw [textureOf, hzero]
      decide
    · rw [textureOf, hquality]
      exact compressionQuality_of_conforms h hsettings
  exact ⟨(integerOf_of_isSize h.width).2, (integerOf_of_isSize h.height).2, hquality.1, hquality.2,
    ImportInfo.derive_compressionLabel_mem, eq_empty_of_firstNonEmpty⟩

theorem madeFrom_textureOf (hslot : SlotConforms slot) (h : TextureConforms members) :
    MadeFrom slot members (textureOf slot members) where
  propertyName := textOf_of_isText hslot.property
  displayName := ⟨_, gives_textOf hslot.displayName, firstNonEmpty_eq_firstText _ _⟩
  name := textOf_of_isText h.name
  assetPath := gives_textOf h.path
  width := (integerOf_of_isSize h.width).1
  height := (integerOf_of_isSize h.height).1
  pixelFormat := gives_textOf h.format
  id := ⟨_, gives_textOf h.id, firstNonEmpty_firstNonEmpty _ _ _⟩
  noAsset hempty := (congrArg (ImportInfo.derive _ · _) hempty).trans ImportInfo.derive_of_empty
  asset hasset := ImportInfo.followsFrom_derive hasset

/-! ## Textures of manifests -/

theorem textureOfSlot?_eq (slot : Document) :
    textureOfSlot? slot = (filledSlot? slot).map fun (slot, members) => textureOf slot members := by
  cases slot with
  | table slot =>
      rw [textureOfSlot?, filledSlot?]
      cases Members.get? slot "texture" with
      | none => rfl
      | some value => cases value <;> rfl
  | _ => rfl

theorem textures_materialOf (document : Document) :
    (materialOf document).textures =
      (filledSlots document).map fun (slot, members) => textureOf slot members := by
  cases document with
  | table members =>
      rw [materialOf, filledSlots, List.map_filterMap]
      exact List.filterMap_congr fun slot _ => textureOfSlot?_eq slot
  | _ => rfl

/-- What a manifest that conforms says of the slots with a texture. -/
theorem conforms_of_mem_filledSlots {document : Document} (h : Conforms document)
    (hmem : (slot, members) ∈ filledSlots document) :
    SlotConforms slot ∧ TextureConforms members := by
  obtain ⟨outer, rfl, hmembers⟩ := h
  obtain ⟨place, hplace, hfilled⟩ := List.mem_filterMap.1 hmem
  rcases hmembers.textures with hnone | ⟨slots, hslots, hconform⟩
  · simp [slotsOf, hnone] at hplace
  · rw [slotsOf, hslots] at hplace
    obtain ⟨inner, rfl, hslot⟩ := hconform place hplace
    rcases hslot.texture with (hnone | hnull) | ⟨texture, htexture, hconforms⟩
    · simp [filledSlot?, hnone] at hfilled
    · simp [filledSlot?, hnull] at hfilled
    · rw [filledSlot?, htexture, Option.some.injEq, Prod.mk.injEq] at hfilled
      obtain ⟨rfl, rfl⟩ := hfilled
      exact ⟨hslot, hconforms⟩

/-- The textures of a manifest that is read are made from the slots that hold one, in their order,
and each of them is well formed. -/
theorem loaded_textures_wellFormed {document : Document} {material : Material}
    (h : materialOfDocument document = .ok material) :
    List.Forall₂ (fun (place : Members × Members) texture =>
        WellFormed texture ∧ MadeFrom place.1 place.2 texture)
      (filledSlots document) material.textures := by
  rw [materialOfDocument_eq_outcome, outcome] at h
  cases hfirst : firstFailing? (checks document) with
  | some check => simp [hfirst] at h
  | none =>
      have hconforms : Conforms document := firstFailing?_checks_eq_none_iff.1 hfirst
      rw [hfirst, Except.ok.injEq] at h
      rw [← h, textures_materialOf, List.forall₂_map_right_iff, List.forall₂_same]
      rintro ⟨slot, members⟩ hmem
      obtain ⟨hslot, htexture⟩ := conforms_of_mem_filledSlots hconforms hmem
      exact ⟨wellFormed_textureOf htexture, madeFrom_textureOf hslot htexture⟩

/-- A declared normal map keeps the color space that its importer says, although its name would put
it into the linear one, and a texture without a path has no import facts, whatever its importer
says. -/
theorem loaded_textures_wellFormed_bricks :
    let bump : Document := .table
      [("texture_type", .text "normal_map"), ("crunched", .boolean true),
       ("compression_quality", .integer 100), ("compression", .text "compressed_hq")]
    let brick : Members :=
      [("name", .text "Brick_N"), ("path", .text "Assets/Brick.png"), ("width", .integer 4),
       ("height", .integer 0), ("importer", bump)]
    let wall : Members :=
      [("name", .text "Wall"), ("id", .text ""), ("width", .integer 2), ("height", .integer 2),
       ("importer", .table [("srgb", .boolean false), ("crunched", .boolean true)])]
    let first : Members := [("property", .text "_Bump"), ("texture", .table brick)]
    let last : Members := [("property", .text ""), ("texture", .table wall)]
    let document : Document := .table
      [("material", .text "Rock"),
       ("textures", .list
        [.table first, .table [("property", .text "_Main"), ("texture", .null)], .table last])]
    ∃ material, materialOfDocument document = .ok material ∧
      List.Forall₂ (fun (place : Members × Members) texture =>
          WellFormed texture ∧ MadeFrom place.1 place.2 texture)
        [(first, brick), (last, wall)] material.textures ∧
      (material.textures.map fun texture => (texture.id, texture.importInfo)) =
        [("Assets/Brick.png",
          { isCrunched := true, isNormalMap := true, crunchQuality := 100
            compressionLabel := "High Quality" }), ("Wall", {})] := by
  intro bump brick wall first last document
  have hread : materialOfDocument document = .ok (materialOf document) := by rfl
  exact ⟨_, hread, loaded_textures_wellFormed hread, by decide +kernel⟩

end Manifest

end TextureCatalog
