import TextureCatalog.Query.Matching
import TextureCatalog.Text.Blank

/-!
# Structured filters

Filters by resolution, crunch compression, color space and pixel format, each of which can be
switched on and off.  They apply after the text query.
-/

namespace TextureCatalog

inductive ColorSpace
  | all
  | srgb
  | linear
  | normalMaps
  deriving DecidableEq, Repr

namespace ColorSpace

def values : List ColorSpace := [.all, .srgb, .linear, .normalMaps]

def name : ColorSpace → String
  | .all => "all"
  | .srgb => "srgb"
  | .linear => "linear"
  | .normalMaps => "normal-maps"

def ofName? (name : String) : Option ColorSpace :=
  values.find? fun colorSpace => colorSpace.name == name

@[simp]
theorem ofName?_name (colorSpace : ColorSpace) : ofName? colorSpace.name = some colorSpace := by
  cases colorSpace <;> decide

/-- Whether a texture belongs to the class; normal maps are in no other class than their own. -/
def contains (colorSpace : ColorSpace) (info : ImportInfo) : Bool :=
  match colorSpace with
  | .all => true
  | .srgb => !info.isLinear && !info.isNormalMap
  | .linear => info.isLinear && !info.isNormalMap
  | .normalMaps => info.isNormalMap

end ColorSpace

structure Filter where
  byResolution : Bool := true
  minResolution : Int := 0
  maxResolution : Int := 8192
  byCrunch : Bool := false
  onlyCrunched : Bool := true
  byColorSpace : Bool := false
  colorSpace : ColorSpace := .all
  byFormat : Bool := false
  format : String := ""
  deriving DecidableEq, Repr

namespace Filter

/-- The bounds that take effect: the lower one is not negative, and the upper one not below it. -/
def bounds (filter : Filter) : Int × Int :=
  let low := max 0 filter.minResolution
  (low, max low filter.maxResolution)

/-- The filter with the resolution range set back to the default one. -/
def resetResolution (filter : Filter) : Filter :=
  { filter with minResolution := 0, maxResolution := 8192 }

def resolutionPasses (filter : Filter) (texture : Texture) : Bool :=
  let (low, high) := filter.bounds
  low ≤ texture.maxDimension && texture.maxDimension ≤ high

/-- Whether the format text stands in the pixel format, in letters of either case. -/
def formatPasses (filter : Filter) (texture : Texture) : Bool :=
  Text.isBlankText filter.format ||
    Text.occursIn (Text.lower filter.format.toList) (Text.lower texture.pixelFormat.toList)

/-- Whether a texture passes every filter that is switched on. -/
def passes (filter : Filter) (texture : Texture) : Bool :=
  (!filter.byResolution || filter.resolutionPasses texture) &&
    (!filter.byCrunch || texture.importInfo.isCrunched == filter.onlyCrunched) &&
    (!filter.byColorSpace || filter.colorSpace.contains texture.importInfo) &&
    (!filter.byFormat || filter.formatPasses texture)

inductive Edit
  | byResolution (value : Bool)
  | minResolution (value : Int)
  | maxResolution (value : Int)
  | byCrunch (value : Bool)
  | onlyCrunched (value : Bool)
  | byColorSpace (value : Bool)
  | colorSpace (value : ColorSpace)
  | byFormat (value : Bool)
  | format (value : String)
  deriving DecidableEq, Repr

def edit (filter : Filter) : Edit → Filter
  | .byResolution value => { filter with byResolution := value }
  | .minResolution value => { filter with minResolution := value }
  | .maxResolution value => { filter with maxResolution := value }
  | .byCrunch value => { filter with byCrunch := value }
  | .onlyCrunched value => { filter with onlyCrunched := value }
  | .byColorSpace value => { filter with byColorSpace := value }
  | .colorSpace value => { filter with colorSpace := value }
  | .byFormat value => { filter with byFormat := value }
  | .format value => { filter with format := value }

end Filter

/-! ## Searching -/

/-- The textures that match a query text and pass the filters, in their order. -/
def search (textures : List Texture) (query : String) (filter : Filter) :
    Except Query.Fault (List Texture) :=
  (Query.filter textures query).map fun matching => matching.filter filter.passes

/-- The positions of the members of a list that satisfy a test, in increasing order. -/
def positionsOf {α : Type} (test : α → Bool) (items : List α) : List Nat :=
  (items.zipIdx.filter fun (item, _) => test item).map (·.2)

/-- The positions of the textures that match a query text, in increasing order. -/
def Query.keptPositions (textures : List Texture) (query : String) : Except Fault (List Nat) := do
  let keeps ← test query
  let found ← textures.zipIdx.filterM fun (texture, _) => keeps texture
  return found.map (·.2)

def searchPositions (textures : List Texture) (query : String) (filter : Filter) :
    Except Query.Fault (List Nat) :=
  (Query.keptPositions textures query).map fun positions =>
    positions.filter fun position => textures[position]?.any filter.passes

end TextureCatalog
