import TextureCatalog.CommandLine.Arguments
import TextureCatalog.Json.Writer
import TextureCatalog.Program.Action
import TextureCatalog.Terminal.Table

/-!
# The search command

Shows the textures of a manifest that match a query and pass the filters: as a table, as one path a
line, or as JSON.
-/

namespace TextureCatalog.Program

open CommandLine Terminal

inductive OutputFormat
  | table
  | paths
  | json
  deriving DecidableEq, Repr

namespace OutputFormat

def values : List OutputFormat := [.table, .paths, .json]

def name : OutputFormat → String
  | .table => "table"
  | .paths => "paths"
  | .json => "json"

def ofName? (name : String) : Option OutputFormat :=
  values.find? fun format => format.name == name

end OutputFormat

/-- What a search is asked for.  The query is given in parts. -/
structure SearchRequest where
  manifest : Files.Path
  query : List String := []
  overrides : Settings.Overrides := {}
  format : OutputFormat := .table
  limit : Option Int := none
  deriving DecidableEq, Repr

def searchCommand : Command :=
  { name := "search"
    summary := "Filter the textures of a material manifest."
    details :=
      [.wrapped 0 ("MANIFEST is a JSON file describing a material's texture slots. QUERY is an " ++
        "optional search string; multiple arguments are joined with spaces."),
       .lines
        ["Syntax:",
         "  a,b        textures matching a AND b",
         "  a|b        textures matching a OR b (pipe wins over comma)",
         "  !a         textures NOT matching a",
         "  >2048      larger dimension above 2048 (also <, >=, <=, =)",
         "  2048<      2048 is smaller than the texture (same as >2048)",
         "  2048>      2048 is bigger than the texture (same as <2048)"],
       .lines
        ["Text terms search: display name, field name, texture name, asset path,",
         "format, size, color space (linear/srgb), crunched, normal, compression."],
       .lines
        ["Examples:",
         "  material-inspector search rock.json \"!crunched\"",
         "  material-inspector search rock.json \">=2048|<512\"",
         "  material-inspector search rock.json normal --color-space normal-maps"]]
    options :=
      [{ name := "--min-res", kind := .value .integer
         help := "Minimum size of the larger texture dimension (default from config)" },
       { name := "--max-res", kind := .value .integer
         help := "Maximum size of the larger texture dimension (default from config)" },
       { name := "--no-resolution-filter", kind := .flag
         help := "Do not filter by resolution range" },
       { name := "--crunched", kind := .toggle ["--not-crunched"]
         help := "Keep only crunched / only non-crunched textures" },
       { name := "--color-space", kind := .value (.choice (ColorSpace.values.map ColorSpace.name))
         help := "Keep only one color-space class (default from config)" },
       { name := "--format-filter", otherNames := ["-F"], kind := .value .text
         help := "Keep textures whose pixel format contains this text" },
       { name := "--output-format", otherNames := ["-f"]
         kind := .value (.choice (OutputFormat.values.map OutputFormat.name))
         help := "Output format (default: table)" },
       { name := "--limit", otherNames := ["-l"], kind := .value .integer
         help := "Limit number of results" }]
    operands := [⟨"MANIFEST", .required, true⟩, ⟨"QUERY", .any, false⟩] }

def SearchRequest.ofArguments (arguments : Arguments) : SearchRequest :=
  { manifest := .ofText (arguments.operands.head?.getD "")
    query := arguments.operands.tail
    overrides :=
      { minResolution := arguments.integer? "--min-res"
        maxResolution := arguments.integer? "--max-res"
        noResolutionFilter := arguments.flag "--no-resolution-filter"
        crunched := arguments.toggle? "--crunched"
        colorSpace := (arguments.value? "--color-space").bind ColorSpace.ofName?
        format := arguments.value? "--format-filter" }
    format := ((arguments.value? "--output-format").bind OutputFormat.ofName?).getD .table
    limit := arguments.integer? "--limit" }

def SearchRequest.queryText (request : SearchRequest) : String :=
  " ".intercalate request.query

/-! ## Results -/

def tableColumns : List Column :=
  [{ header := "Property", style := .bold }, { header := "Field" }, { header := "Texture" },
   { header := "Size", rightAligned := true }, { header := "Format" }, { header := "Color" },
   { header := "Crunch", rightAligned := true }, { header := "Compression" },
   { header := "Path", style := .underlinedBlue }]

def literalCell (text : String) : Action Painted :=
  return { text := ← shown (literal text) }

/-- The display name, with a mark if the texture is not in sRGB color space. -/
def displayCell (texture : Texture) : Action Painted :=
  let mark :=
    if texture.importInfo.isNormalMap then " [NORMAL]"
    else if texture.importInfo.isLinear then " [LINEAR]"
    else ""
  return { text := ← shown (literal texture.displayName ++ mark) }

def colorSpaceCell (texture : Texture) : Painted :=
  { style :=
      if texture.importInfo.isNormalMap then .magenta
      else if texture.importInfo.isLinear then .green
      else .plain
    text := texture.colorSpaceLabel.toList }

/-- A text of numerals as the content of a cell, if it can be written. -/
def numeralCell (style : Style) : Option String → Action Painted
  | some text => return { style, text := text.toList }
  | none => throw .numeralTooLong

def sizeCell (texture : Texture) : Action Painted :=
  numeralCell .plain texture.sizeLabel

/-- The quality of the crunch compression, for a texture that has it. -/
def crunchCell (texture : Texture) : Action Painted :=
  if texture.importInfo.isCrunched then
    numeralCell .yellow (Text.decimalText? texture.importInfo.crunchQuality)
  else return { text := [] }

def tableRow (texture : Texture) : Action (List Painted) := do
  return [← displayCell texture, ← literalCell texture.propertyName, ← literalCell texture.name,
    ← sizeCell texture, ← literalCell texture.pixelFormat, colorSpaceCell texture,
    ← crunchCell texture, { text := texture.importInfo.compressionLabel.toList },
    ← literalCell texture.assetPath]

def textureDocument (texture : Texture) : Document :=
  .table
    [("id", .text texture.id), ("display_name", .text texture.displayName),
     ("property", .text texture.propertyName), ("name", .text texture.name),
     ("path", .text texture.assetPath), ("width", .integer texture.width),
     ("height", .integer texture.height), ("format", .text texture.pixelFormat),
     ("is_crunched", .boolean texture.importInfo.isCrunched),
     ("is_normal_map", .boolean texture.importInfo.isNormalMap),
     ("is_linear", .boolean texture.importInfo.isLinear),
     ("crunch_quality", .integer texture.importInfo.crunchQuality),
     ("compression_quality", .text texture.importInfo.compressionLabel)]

def jsonText (textures : List Texture) : List Char :=
  Json.write { indent := some 2 } (.list (textures.map textureDocument))

/-- What stands for a texture in the output of paths: its path, or its name if it has none. -/
def pathText (texture : Texture) : String :=
  if texture.assetPath.isEmpty then texture.name else texture.assetPath

def tableTitle (request : SearchRequest) (material : Material) (count : Nat) : String :=
  s!"{literal material.name}: {Text.decimalText count} of " ++
    s!"{Text.decimalText material.textures.length} textures" ++
    if request.queryText.isEmpty then "" else s!" matching '{literal request.queryText}'"

/-- Shows a table.  A terminal without abilities gets no colors. -/
def showTable (context : Context) (table : Table) : Action Unit := do
  let screen ← read
  match screen.tableWidth? context.colored with
  | none => throw .unreadableSize
  | some width =>
    let text ← cutText (table.render (context.colored && !screen.isSimple) width)
    if context.pagerIsBlank then throw .noPager else write text

def showTextures (context : Context) (request : SearchRequest) (material : Material)
    (textures : List Texture) : Action Unit :=
  match request.format with
  | .table => do
    context.noteAside (tableTitle request material textures.length)
    let rows ← textures.mapM tableRow
    showTable context { columns := tableColumns, rows }
  | .paths => textures.forM fun texture => write (plainLine (pathText texture).toList)
  | .json => write (plainLine (jsonText textures))

/-! ## The command -/

def truthText (value : Bool) : String :=
  if value then "True" else "False"

def filterDescription (filter : Filter) : String :=
  let colorSpace := match filter.colorSpace with
    | .all => "ALL"
    | .srgb => "SRGB"
    | .linear => "LINEAR"
    | .normalMaps => "NORMAL_MAPS"
  let fields :=
    ["filter_by_resolution=" ++ truthText filter.byResolution,
     "min_resolution=" ++ Text.decimalText filter.minResolution,
     "max_resolution=" ++ Text.decimalText filter.maxResolution,
     "filter_by_crunch=" ++ truthText filter.byCrunch,
     "show_only_crunched=" ++ truthText filter.onlyCrunched,
     "filter_by_color_space=" ++ truthText filter.byColorSpace,
     s!"color_space=<ColorSpaceFilter.{colorSpace}: {Text.quoted filter.colorSpace.name}>",
     "filter_by_format=" ++ truthText filter.byFormat,
     "format_filter=" ++ Text.quoted filter.format]
  "StructuredFilterConfig(" ++ ", ".intercalate fields ++ ")"

def manifestHint : String :=
  "A manifest needs \"material\" and a \"textures\" list of \"property\"/\"texture\" slots"

/-- Reports why a manifest is not loaded; some faults end the program without a report. -/
def reportManifestFault (fault : Manifest.Fault) : Action Unit :=
  match fault with
  | .unknownUser => throw .unknownUser
  | .nulInPath => throw .nulInPath
  | .inaccessible fault _ => throw (.files fault)
  | .content _ .numeralTooLong => throw .numeralTooLong
  | .notFound _ | .unreadable _ _ => reportError fault.message
  | .content _ _ => do
    reportError fault.message
    reportHint manifestHint

def limited (limit : Option Int) (textures : List Texture) : List Texture :=
  match limit with
  | some count => textures.take count.toNat
  | none => textures

def noteNoMatch (context : Context) (request : SearchRequest) (material : Material) :
    Action Unit :=
  let query :=
    if request.queryText.isEmpty then "(no query)" else literal request.queryText
  context.noteAside s!"No textures on {literal material.name} match: {query}"

def showMatches (context : Context) (request : SearchRequest) (material : Material)
    (kept : List Texture) : Action Unit :=
  if kept.isEmpty then noteNoMatch context request material
  else do
    let textures := limited request.limit kept
    if textures.length < kept.length then
      context.noteDetail <| s!"Showing {Text.decimalText textures.length} of " ++
        s!"{Text.decimalText kept.length} matches " ++
        s!"(--limit {Text.decimalText (request.limit.getD 0)})"
    showTextures context request material textures

def runSearch (context : Context) (request : SearchRequest) : Action Nat :=
  if (request.limit.map (decide <| · < 0)).getD false then do
    reportError "--limit must not be negative"
    return refusal
  else do
    let filter := context.settings.filterWith request.overrides
    unless Text.isWritable filter.minResolution && Text.isWritable filter.maxResolution do
      throw .numeralTooLong
    context.noteInside ("Filters: " ++ filterDescription filter)
    match Manifest.load (← get).tree context.surroundings request.manifest with
    | .error fault =>
      reportManifestFault fault
      return misuse
    | .ok material =>
      context.noteDetail <| s!"Loaded {Text.decimalText material.textures.length} textures from " ++
        request.manifest.toText
      match search material.textures request.queryText filter with
      | .error fault => throw (.query fault)
      | .ok kept =>
        showMatches context request material kept
        return success

end TextureCatalog.Program
