import TextureCatalog.Files.Tree
import TextureCatalog.Settings.Document
import TextureCatalog.Toml.Reader
import TextureCatalog.Toml.Writer

/-!
# Loading and saving settings

Settings are kept in a TOML file, by default in the configuration directory of the user.
-/

namespace TextureCatalog.Settings

/-- Where settings are kept unless another file is named. -/
def defaultPath (surroundings : Files.Surroundings) : Except Files.HomeFault Files.Path :=
  (surroundings.homeOf []).map (·.append [".config", "material-inspector", "config.toml"])

/-- Why a file of settings cannot be named, read, written or understood. -/
inductive Fault
  | unknownUser
  | nulInPath
  | files (fault : Files.Fault) (path : Files.Path)
  | undecodable (fault : Text.Utf8.Fault)
  | malformed (path : Files.Path) (detail : String)
  | numeralTooLong (detail : String)
  | document (fault : DocumentFault)
  deriving DecidableEq, Repr

def Fault.message : Fault → String
  | .unknownUser => "Could not determine home directory."
  | .nulInPath => "embedded null byte"
  | .files fault path => fault.message path
  | .undecodable fault => fault.message
  | .malformed path detail => s!"Invalid config at {path.toText}: {detail}"
  | .numeralTooLong detail => detail
  | .document fault => fault.message

def Fault.ofHome : Files.HomeFault → Fault
  | .unknownUser => .unknownUser
  | .nulInName => .nulInPath

/-- The path of a settings file with its home directory, where `none` stands for the default. -/
def expanded (surroundings : Files.Surroundings) (path : Option Files.Path) :
    Except Files.HomeFault Files.Path := do
  let path ← match path with
    | some path => pure path
    | none => defaultPath surroundings
  path.expandHome surroundings

def locate (surroundings : Files.Surroundings) (path : Option Files.Path) :
    Except Fault Files.Location :=
  match expanded surroundings path with
  | .error fault => .error (.ofHome fault)
  | .ok path =>
    if path.names.any fun name => '\x00' ∈ name.toList then .error .nulInPath
    else .ok (path.resolve surroundings.workingDirectory)

def ofBytes (content : List UInt8) (source : Files.Path) : Except Fault Settings :=
  match Text.Utf8.decode content with
  | .error fault => .error (.undecodable fault)
  | .ok decoded =>
    let text := Text.dropReturns decoded
    match Toml.read text with
    | .error (.numeralTooLong digits) =>
      .error (.numeralTooLong ((Toml.Fault.numeralTooLong digits).message text))
    | .error fault => .error (.malformed source (fault.message text))
    | .ok members =>
      match ofDocument members source with
      | .error fault => .error (.document fault)
      | .ok settings => .ok settings

def unwritableNumber : Fault :=
  .numeralTooLong (s!"Exceeds the limit ({Text.numeralLimit} digits) for integer string " ++
    "conversion; use sys.set_int_max_str_digits() to increase the limit")

/-- Settings from a file with the warnings about them, whose numbers must not be too long to be
written. -/
def withWarnings (settings : Settings) : Except Fault (Settings × List Warning) :=
  let warnings := settings.warnings
  if warnings.all fun warning => warning.numbers.all Text.isWritable then .ok (settings, warnings)
  else .error unwritableNumber

/-- Loads settings from a file, or from the default one.  Without the file the defaults apply. -/
def load (tree : Files.Tree) (surroundings : Files.Surroundings) (path : Option Files.Path) :
    Except Fault (Settings × List Warning) :=
  match locate surroundings path with
  | .error fault => .error fault
  | .ok location =>
    let source := Files.Path.ofLocation location
    match tree.reachLocation location with
    | .error .notFound | .error .notADirectory =>
      let settings : Settings := {}
      .ok (settings, .noFile source :: settings.warnings)
    | .error fault => .error (.files fault source)
    | .ok .directory => .error (.files .isADirectory source)
    | .ok (.file content) =>
      match ofBytes content source with
      | .error fault => .error fault
      | .ok settings => settings.withWarnings

/-- The sections of a settings file.  An empty format is left out. -/
def sections (settings : Settings) : List Toml.Section :=
  [⟨"display", [(Key.coloredOutput.name, .boolean settings.coloredOutput)]⟩,
   ⟨"filters",
    [(Key.minResolution.name, .integer settings.minResolution),
     (Key.maxResolution.name, .integer settings.maxResolution),
     (Key.colorSpace.name, .text settings.colorSpace.name)] ++
      if settings.format.isEmpty then [] else [(Key.format.name, .text settings.format)]⟩]

def toToml (settings : Settings) : List Char :=
  Toml.write settings.sections

/-- Saves settings to a file: to the given one, or to the one that they were read from, or to the
default one.  Gives the tree with the file in it, and the location of the file. -/
def save (settings : Settings) (tree : Files.Tree) (surroundings : Files.Surroundings)
    (path : Option Files.Path) : Except Fault (Files.Tree × Files.Location) :=
  match locate surroundings (path.or settings.source) with
  | .error fault => .error fault
  | .ok location =>
    match tree.install location (Text.Utf8.encode settings.toToml) with
    | .error unfinished => .error (.files unfinished.fault (.ofLocation unfinished.place))
    | .ok tree => .ok (tree, location)

end TextureCatalog.Settings
