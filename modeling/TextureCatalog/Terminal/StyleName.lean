import TextureCatalog.Terminal.ColorName
import TextureCatalog.Text.Blank
import TextureCatalog.Text.Lowercase

/-!
# Style names

A style is named by words: attributes such as `bold`, each of which may follow `not`, a color, a
background color after `on`, and an address after `link`.  Two names of one style have the same
normal form, in which the words have a fixed order and no abbreviations.
-/

namespace TextureCatalog.Terminal

/-- The attributes in the order of normal names, each with its abbreviations. -/
def attributes : List (String × List String) :=
  [("bold", ["b"]), ("dim", ["d"]), ("italic", ["i"]), ("underline", ["u"]), ("blink", []),
   ("blink2", []), ("reverse", ["r"]), ("conceal", ["c"]), ("strike", ["s"]),
   ("underline2", ["uu"]), ("frame", []), ("encircle", []), ("overline", ["o"])]

def attribute? (word : List Char) : Option String :=
  let word := String.ofList word
  (attributes.find? fun (name, short) => name == word || short.contains word).map (·.1)

/-- What the words of a name say.  Of two statements about the same thing the first in the list of
attributes counts, and it is the one that stands last in the name. -/
structure NamedStyle where
  attributes : List (String × Bool) := []
  color : Option (List Char) := none
  background : Option (List Char) := none
  link : Option (List Char) := none

def NamedStyle.setting (style : NamedStyle) (name : String) (value : Bool) : NamedStyle :=
  { style with attributes := (name, value) :: style.attributes }

/-- Reads the words of a style name from the first to the last; `none` if they are not one. -/
def NamedStyle.read (style : NamedStyle) :
    List (List Char) → Except UnreadableColor (Option NamedStyle)
  | [] => .ok (some style)
  | word :: rest =>
    let key := String.ofList (Text.lower word)
    if key = "on" then
      match rest with
      | color :: rest => do
        if ← isColorName (Text.lower color) then
          NamedStyle.read { style with background := some (Text.lower color) } rest
        else return none
      | [] => .ok none
    else if key = "not" then
      match rest with
      | word :: rest =>
        match attribute? word with
        | some name => (style.setting name false).read rest
        | none => .ok none
      | [] => .ok none
    else if key = "link" then
      match rest with
      | address :: rest => { style with link := some address }.read rest
      | [] => .ok none
    else
      match attribute? (Text.lower word) with
      | some name => (style.setting name true).read rest
      | none => do
        if ← isColorName (Text.lower word) then
          NamedStyle.read { style with color := some (Text.lower word) } rest
        else return none

/-- The style that a name stands for; `none` if it is not the name of a style. -/
def styleNamed? (name : List Char) : Except UnreadableColor (Option NamedStyle) :=
  NamedStyle.read {} (Text.wordsOf name)

def NamedStyle.words (style : NamedStyle) : List (List Char) :=
  (Terminal.attributes.flatMap fun (name, _) =>
    match style.attributes.lookup name with
    | some true => [name.toList]
    | some false => ["not".toList, name.toList]
    | none => []) ++
  style.color.toList ++
  (style.background.map fun color => ["on".toList, color]).getD [] ++
  (style.link.map fun address => ["link".toList, address]).getD []

/-- The normal form of a style name.  What is not the name of a style is only trimmed and put into
lower case. -/
def normalStyleName (name : List Char) : Except UnreadableColor (List Char) := do
  match ← styleNamed? name with
  | none => return Text.lower (Text.trim name)
  | some style =>
    match style.words with
    | [] => return "none".toList
    | words => return Text.joinWith [' '] words

end TextureCatalog.Terminal
