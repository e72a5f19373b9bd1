import TextureCatalog.Document
import TextureCatalog.Settings.Basic

/-!
# Settings in documents

Settings stand in two sections of a document, `display` and `filters`.  Members with other keys are
ignored, and absent ones have their defaults.
-/

namespace TextureCatalog.Settings

inductive Key
  | coloredOutput
  | minResolution
  | maxResolution
  | colorSpace
  | format
  deriving DecidableEq, Repr

def Key.name : Key → String
  | .coloredOutput => "colored_output"
  | .minResolution => "min_resolution"
  | .maxResolution => "max_resolution"
  | .colorSpace => "color_space"
  | .format => "format_filter"

def Key.sectionName : Key → String
  | .coloredOutput => "display"
  | _ => "filters"

def Key.requirement : Key → String
  | .coloredOutput => "must be a boolean"
  | .minResolution | .maxResolution => "must be an integer"
  | .colorSpace => "must be one of: " ++ ", ".intercalate (ColorSpace.values.map ColorSpace.name)
  | .format => "must be a string"

/-- Why a section that is no table cannot be used: nothing can be looked for in it, or a text or a
list holds the key that is looked for but has no value for it. -/
inductive Misuse
  | unsearchable (kind : String)
  | textHolds
  | listHolds
  deriving DecidableEq, Repr

def Misuse.message : Misuse → String
  | .unsearchable kind => s!"argument of type '{kind}' is not iterable"
  | .textHolds => "string indices must be integers, not 'str'"
  | .listHolds => "list indices must be integers or slices, not str"

/-- Why a document does not give settings: a value is wrong, or a section is no table. -/
inductive DocumentFault
  | invalid (key : Key)
  | misused (misuse : Misuse)
  deriving DecidableEq, Repr

def DocumentFault.message : DocumentFault → String
  | .invalid key =>
    s!"Invalid config value for '{key.sectionName}.{key.name}': {key.requirement}"
  | .misused misuse => misuse.message

def momentName : MomentKind → String
  | .date => "datetime.date"
  | .time => "datetime.time"
  | .dateTime => "datetime.datetime"

/-- The value of a key in its section.  In a section that is a text, the key is looked for as a part
of the text, and in a list as one of its items: where it is not found, it counts as absent. -/
def valueIn (place : Option Document) (key : Key) : Except DocumentFault (Option Document) :=
  match place with
  | none => .ok none
  | some (.table members) => .ok (Document.Members.get? members key.name)
  | some (.text text) =>
    if Text.occursIn key.name.toList text.toList then .error (.misused .textHolds) else .ok none
  | some (.list items) =>
    if items.any fun | .text item => item == key.name | _ => false then
      .error (.misused .listHolds)
    else .ok none
  | some .null => .error (.misused (.unsearchable "NoneType"))
  | some (.boolean _) => .error (.misused (.unsearchable "bool"))
  | some (.integer _) => .error (.misused (.unsearchable "int"))
  | some (.decimal _) => .error (.misused (.unsearchable "float"))
  | some (.moment kind _) => .error (.misused (.unsearchable (momentName kind)))

/-- The reading of a value that may be absent. -/
def readWith {α : Type} (key : Key) (default : α) (convert : Document → Option α)
    (value : Option Document) : Except DocumentFault α :=
  match value with
  | none => .ok default
  | some value =>
    match convert value with
    | some result => .ok result
    | none => .error (.invalid key)

def boolean? : Document → Option Bool
  | .boolean value => some value
  | _ => none

def integer? : Document → Option Int
  | .integer value => some value
  | _ => none

def text? : Document → Option String
  | .text value => some value
  | _ => none

def colorSpace? : Document → Option ColorSpace
  | .text name => ColorSpace.ofName? name
  | _ => none

/-- Reads the members of a document as settings that come from a file. -/
def ofDocument (members : Document.Members) (source : Files.Path) :
    Except DocumentFault Settings := do
  let defaults : Settings := {}
  let display := members.get? "display"
  let coloredOutput ← readWith .coloredOutput defaults.coloredOutput boolean?
    (← valueIn display .coloredOutput)
  let filters := members.get? "filters"
  let minResolution ← readWith .minResolution defaults.minResolution integer?
    (← valueIn filters .minResolution)
  let maxResolution ← readWith .maxResolution defaults.maxResolution integer?
    (← valueIn filters .maxResolution)
  let colorSpace ← readWith .colorSpace defaults.colorSpace colorSpace?
    (← valueIn filters .colorSpace)
  let format ← readWith .format defaults.format text? (← valueIn filters .format)
  return { coloredOutput, minResolution, maxResolution, colorSpace, format, source := some source }

end TextureCatalog.Settings
