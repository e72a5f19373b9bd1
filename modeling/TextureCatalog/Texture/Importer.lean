/-!
# Importer settings

How an asset is imported, as far as it matters for classifying a texture.
-/

namespace TextureCatalog

inductive Compression
  | uncompressed
  | compressedLowQuality
  | compressed
  | compressedHighQuality
  deriving DecidableEq, Repr

namespace Compression

/-- The settings in the order in which messages list them. -/
def all : List Compression :=
  [.uncompressed, .compressedLowQuality, .compressed, .compressedHighQuality]

def name : Compression → String
  | .uncompressed => "uncompressed"
  | .compressedLowQuality => "compressed_lq"
  | .compressed => "compressed"
  | .compressedHighQuality => "compressed_hq"

def ofName? (name : String) : Option Compression :=
  all.find? fun compression => compression.name == name

def label : Compression → String
  | .uncompressed => "None"
  | .compressedLowQuality => "Low Quality"
  | .compressed => "Normal Quality"
  | .compressedHighQuality => "High Quality"

@[simp]
theorem ofName?_name (compression : Compression) : ofName? compression.name = some compression := by
  cases compression <;> decide

end Compression

/-- The importer settings of a texture asset.  `compressionQuality` runs from 0 to 100. -/
structure Importer where
  textureType : String := "default"
  srgb : Bool := true
  crunched : Bool := false
  compressionQuality : Int := 50
  compression : Option Compression := none
  deriving DecidableEq, Repr

def Importer.normalMapType : String := "normal_map"

end TextureCatalog
