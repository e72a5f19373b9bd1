import TextureCatalog.Files.Path
import TextureCatalog.Filter

/-!
# Settings

The defaults of searches and output, which a user keeps in a configuration file.
-/

namespace TextureCatalog

/-- The settings of a user.  `source` is the file that they were read from. -/
structure Settings where
  coloredOutput : Bool := true
  minResolution : Int := 0
  maxResolution : Int := 8192
  colorSpace : ColorSpace := .all
  format : String := ""
  source : Option Files.Path := none
  deriving DecidableEq, Repr

namespace Settings

/-- What a user should know about settings that work nevertheless. -/
inductive Warning
  | noFile (path : Files.Path)
  | negativeMinimum (minimum : Int)
  | maximumBelowMinimum (maximum minimum : Int)
  deriving DecidableEq, Repr

def Warning.message : Warning → String
  | .noFile path =>
    s!"No config file found at {path.toText}. Using defaults. Create config with: " ++
      "material-inspector init-config"
  | .negativeMinimum minimum =>
    s!"filters.min_resolution={Text.decimalText minimum} is negative, using 0"
  | .maximumBelowMinimum maximum minimum =>
    s!"filters.max_resolution={Text.decimalText maximum} is below " ++
      s!"min_resolution={Text.decimalText minimum}, using min_resolution"

def Warning.numbers : Warning → List Int
  | .noFile _ => []
  | .negativeMinimum minimum => [minimum]
  | .maximumBelowMinimum maximum minimum => [maximum, minimum]

def warnings (settings : Settings) : List Warning :=
  (if settings.minResolution < 0 then [.negativeMinimum settings.minResolution] else []) ++
    (if settings.maxResolution < max 0 settings.minResolution then
      [.maximumBelowMinimum settings.maxResolution settings.minResolution]
    else [])

/-- The filter of a search that changes nothing about the settings.  A color space class other than
`all` and a format that is not blank switch their filters on. -/
def filter (settings : Settings) : Filter :=
  { minResolution := settings.minResolution
    maxResolution := settings.maxResolution
    byColorSpace := settings.colorSpace != .all
    colorSpace := settings.colorSpace
    byFormat := !Text.isBlankText settings.format
    format := settings.format }

structure Overrides where
  minResolution : Option Int := none
  maxResolution : Option Int := none
  noResolutionFilter : Bool := false
  crunched : Option Bool := none
  colorSpace : Option ColorSpace := none
  format : Option String := none
  deriving DecidableEq, Repr

def filterWith (settings : Settings) (overrides : Overrides) : Filter :=
  let filter := settings.filter
  let filter := if overrides.noResolutionFilter then { filter with byResolution := false } else filter
  let filter := match overrides.minResolution with
    | some minimum => { filter with minResolution := minimum }
    | none => filter
  let filter := match overrides.maxResolution with
    | some maximum => { filter with maxResolution := maximum }
    | none => filter
  let filter := match overrides.crunched with
    | some crunched => { filter with byCrunch := true, onlyCrunched := crunched }
    | none => filter
  let filter := match overrides.colorSpace with
    | some colorSpace => { filter with colorSpace, byColorSpace := colorSpace != .all }
    | none => filter
  match overrides.format with
  | some format => { filter with format, byFormat := !Text.isBlankText format }
  | none => filter

end Settings

end TextureCatalog
