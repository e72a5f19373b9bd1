import TextureCatalog.Text.Lowercase
import TextureCatalog.Text.Numeral
import TextureCatalog.Text.Substring
import TextureCatalog.Texture.Importer

/-!
# Textures

A texture that a material refers to, and the facts about its import that are derived from the
importer settings and from naming conventions.
-/

namespace TextureCatalog

/-- How a texture asset is imported.  The label of the compression is empty if it is unknown. -/
structure ImportInfo where
  isCrunched : Bool := false
  isNormalMap : Bool := false
  isLinear : Bool := false
  crunchQuality : Int := 0
  compressionLabel : String := ""
  deriving DecidableEq, Repr

/-- Whether name or path suggest a normal map: `normal` in either, `_n.` in the path, `bump` in the
name or `_n` at its end, in letters of either case. -/
def looksLikeNormalMap (name assetPath : String) : Bool :=
  let lowerPath := Text.lower assetPath.toList
  let lowerName := Text.lower name.toList
  Text.occursIn "normal".toList lowerPath || Text.occursIn "_n.".toList lowerPath ||
    Text.occursIn "normal".toList lowerName || Text.occursIn "bump".toList lowerName ||
    "_n".toList.isSuffixOf lowerName

namespace ImportInfo

/-- What the importer settings alone say. -/
def ofImporter : Option Importer → ImportInfo
  | none => {}
  | some importer =>
    { isCrunched := importer.crunched
      isNormalMap := importer.textureType == Importer.normalMapType
      isLinear := !importer.srgb
      crunchQuality := importer.compressionQuality
      compressionLabel := (importer.compression.map (·.label)).getD "" }

/-- The import facts of a texture.  A texture without an asset path is not an asset and has none.
A texture that its importer does not declare a normal map, but whose name or path suggests one,
counts as a normal map in linear color space. -/
def derive (name assetPath : String) (importer : Option Importer) : ImportInfo :=
  if assetPath.isEmpty then {}
  else
    let declared := ofImporter importer
    if !declared.isNormalMap && looksLikeNormalMap name assetPath then
      { declared with isNormalMap := true, isLinear := true }
    else declared

end ImportInfo

structure Texture where
  id : String
  displayName : String
  propertyName : String
  name : String
  assetPath : String
  width : Int
  height : Int
  pixelFormat : String
  importInfo : ImportInfo := {}
  deriving DecidableEq, Repr

namespace Texture

/-- The larger of width and height, which is what resolutions are compared with. -/
def maxDimension (texture : Texture) : Int :=
  max texture.width texture.height

/-- Both dimensions as they are shown, unless one of them has too many digits. -/
def sizeLabel (texture : Texture) : Option String := do
  return (← Text.decimalText? texture.width) ++ "x" ++ (← Text.decimalText? texture.height)

/-- How the color space is shown: a normal map is neither linear nor sRGB. -/
def colorSpaceLabel (texture : Texture) : String :=
  if texture.importInfo.isNormalMap then "Normal"
  else if texture.importInfo.isLinear then "Linear"
  else "sRGB"

end Texture

/-- A material and the textures that it refers to, in the order of its slots. -/
structure Material where
  name : String
  path : String := ""
  textures : List Texture := []
  deriving DecidableEq, Repr

end TextureCatalog
