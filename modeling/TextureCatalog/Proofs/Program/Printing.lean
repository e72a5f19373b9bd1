import Mathlib.Data.List.Forall2
import TextureCatalog.Program.Search
import TextureCatalog.Proofs.Json.Styles
import TextureCatalog.Proofs.Manifest.Loading

/-!
# Printed textures

What a search prints without a table: JSON that is read as the textures again, or one line for each
texture.  No control sequence is dropped from either, unless a path or a name holds one.
-/

namespace TextureCatalog.Program

open Document (Members)

/-! ## Lines -/

theorem dropSequences_of_not_mem {text : List Char} (h : Json.escapeChar ∉ text) :
    Terminal.dropSequences text = text := by
  fun_induction Terminal.dropSequences text with
  | case1 => rfl
  | case2 rest after hafter _ ih => exact absurd List.mem_cons_self h
  | case3 rest hafter ih => exact absurd List.mem_cons_self h
  | case4 c rest hother ih => rw [ih (List.not_mem_of_not_mem_cons h)]

theorem plainLine_of_not_mem {text : List Char} (h : Json.escapeChar ∉ text) :
    plainLine text = text ++ ['\n'] := by
  rw [plainLine, dropSequences_of_not_mem h]

/-! ## JSON -/

/-- The members of an object are the facts about a texture, and nothing else. -/
structure Describes (members : Members) (texture : Texture) : Prop where
  count : members.length = 13
  id : members.get? "id" = some (.text texture.id)
  displayName : members.get? "display_name" = some (.text texture.displayName)
  propertyName : members.get? "property" = some (.text texture.propertyName)
  name : members.get? "name" = some (.text texture.name)
  assetPath : members.get? "path" = some (.text texture.assetPath)
  width : members.get? "width" = some (.integer texture.width)
  height : members.get? "height" = some (.integer texture.height)
  pixelFormat : members.get? "format" = some (.text texture.pixelFormat)
  isCrunched : members.get? "is_crunched" = some (.boolean texture.importInfo.isCrunched)
  isNormalMap : members.get? "is_normal_map" = some (.boolean texture.importInfo.isNormalMap)
  isLinear : members.get? "is_linear" = some (.boolean texture.importInfo.isLinear)
  crunchQuality : members.get? "crunch_quality" = some (.integer texture.importInfo.crunchQuality)
  compressionLabel :
    members.get? "compression_quality" = some (.text texture.importInfo.compressionLabel)

/-- A JSON value is an object with the facts about a texture. -/
def IsObjectOf (object : Document) (texture : Texture) : Prop :=
  ∃ members, object = .table members ∧ Describes members texture

theorem isObjectOf_textureDocument (texture : Texture) :
    IsObjectOf (textureDocument texture) texture :=
  ⟨_, rfl, by constructor <;> rfl⟩

theorem legible_textureDocument {texture : Texture} (h : Manifest.IsSound texture) :
    Json.Legible (textureDocument texture) := by
  refine .table fun member hmember => ?_
  simp only [List.mem_cons, List.not_mem_nil, or_false] at hmember
  rcases hmember with rfl | rfl | rfl | rfl | rfl | rfl | rfl | rfl | rfl | rfl | rfl | rfl | rfl
  iterate 5 exact .text
  · exact .integer h.width
  · exact .integer h.height
  · exact .text
  iterate 3 exact .boolean
  · exact .integer h.quality
  · exact .text

theorem legible_textures {textures : List Texture}
    (h : ∀ texture ∈ textures, Manifest.IsSound texture) :
    Json.Legible (.list (textures.map textureDocument)) :=
  .list (List.forall_mem_map.2 fun texture hmem => legible_textureDocument (h texture hmem))

/-- The JSON output is read as one list, which has an object for each texture in their order. -/
theorem exists_read_jsonText {textures : List Texture}
    (h : ∀ texture ∈ textures, Manifest.IsSound texture) :
    ∃ objects, Json.read (plainLine (jsonText textures)) = .ok (.list objects) ∧
      List.Forall₂ IsObjectOf objects textures := by
  have hlegible := legible_textures h
  have hescape : Json.escapeChar ∉ jsonText textures :=
    (hlegible.spells { indent := some 2 } 0).escapeChar_not_mem
  have hend : Json.IsSpaces ['\n'] := by simp [Json.IsSpaces, Json.isSpace]
  refine ⟨textures.map textureDocument, ?_, ?_⟩
  · rw [plainLine_of_not_mem hescape]
    exact Json.read_write hlegible { indent := some 2 } Json.isSpaces_nil hend
  · rw [List.forall₂_map_left_iff]
    exact List.forall₂_same.2 fun texture _ => isObjectOf_textureDocument texture

/-! ## Paths -/

/-- The lines of textures without control sequences. -/
theorem flatMap_plainLine_of_not_mem {textures : List Texture}
    (h : ∀ texture ∈ textures, Json.escapeChar ∉ (pathText texture).toList) :
    (textures.flatMap fun texture => plainLine (pathText texture).toList) =
      textures.flatMap fun texture => (pathText texture).toList ++ ['\n'] :=
  List.flatMap_congr fun texture hmem => plainLine_of_not_mem (h texture hmem)

end TextureCatalog.Program
