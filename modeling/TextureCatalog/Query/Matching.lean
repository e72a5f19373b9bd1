import TextureCatalog.Query.Basic
import TextureCatalog.Texture.Record

/-!
# Matching textures against a query

A term is searched for in twelve texts of a texture, in letters of either case.  Texts are looked
through one after the other until one decides, and so are terms and textures; a search that comes to
a dimension with too many digits fails there.
-/

namespace TextureCatalog

/-- The texts of a texture in which terms are searched for, without those that cannot be written. -/
def Texture.searchFields (texture : Texture) : List (Option String) :=
  [texture.name, texture.assetPath, texture.displayName, texture.propertyName,
   texture.pixelFormat, texture.sizeLabel, Text.decimalText? texture.width,
   Text.decimalText? texture.height,
   if texture.importInfo.isLinear then "linear" else "srgb",
   if texture.importInfo.isCrunched then "crunched" else "",
   if texture.importInfo.isNormalMap then "normal" else "",
   texture.importInfo.compressionLabel]

namespace Query

def occursInField (text : String) : Option String → Except Fault Bool
  | some field => .ok (Text.occursIn (Text.lower text.toList) (Text.lower field.toList))
  | none => .error .dimensionTooLong

end Query

/-- Whether a text stands in one of the fields, which are looked through until it is found. -/
def Texture.mentions (texture : Texture) (text : String) : Except Query.Fault Bool :=
  texture.searchFields.anyM (Query.occursInField text)

namespace Query

/-- Whether a texture matches a term: the comparison or the search succeeds, or fails if the term
is negated. -/
def Term.matchesTexture (term : Term) (texture : Texture) : Except Fault Bool :=
  let found : Except Fault Bool := match term.comparison with
    | some comparison => .ok (comparison.evaluate texture.maxDimension)
    | none => texture.mentions term.text
  found.map (· != term.negated)

def matchesTerm (texture : Texture) (term : String) : Except Fault Bool := do
  (← Term.parse term).matchesTexture texture

/-- Whether a texture matches a query.  A query without terms matches everything. -/
def matchesTexture (query : Query) (texture : Texture) : Except Fault Bool :=
  if query.terms.isEmpty then .ok true
  else
    match query.mode with
    | .all => query.terms.allM fun term => term.matchesTexture texture
    | .any => query.terms.anyM fun term => term.matchesTexture texture

/-- The test that a query text stands for; a blank text lets everything pass. -/
def test (query : String) : Except Fault (Texture → Except Fault Bool) :=
  (parse query).map fun parsed texture =>
    match parsed with
    | none => .ok true
    | some query => query.matchesTexture texture

/-- The textures that match a query text, in their order. -/
def filter (textures : List Texture) (query : String) : Except Fault (List Texture) := do
  textures.filterM (← test query)

end Query

end TextureCatalog
