import TextureCatalog.Document
import TextureCatalog.Text.Numeral
import TextureCatalog.Text.Substring

/-!
# Writing JSON

A document as a JSON text, in one of several layouts.  All of them read back as the same document.
-/

namespace TextureCatalog.Json

/-- How a JSON text is laid out: indented by so many blanks for each level, or on one line if
`indent` is `none`; with a blank after each comma and colon of a line; and with the characters
beyond ASCII written as escapes. -/
structure Layout where
  indent : Option Nat := none
  spaced : Bool := true
  asciiOnly : Bool := true
  deriving DecidableEq, Repr

/-- An escape by the number of a 16-bit code unit. -/
def unitEscape (code : Nat) : List Char :=
  '\\' :: 'u' :: Text.hexPadded 4 code

/-- A character beyond ASCII as escapes: one, or the two of its surrogate pair. -/
def unicodeEscape (c : Char) : List Char :=
  let code := c.toNat
  if code < 0x10000 then unitEscape code
  else unitEscape (0xD800 + (code - 0x10000) / 0x400) ++ unitEscape (0xDC00 + code % 0x400)

def writeChar (layout : Layout) (c : Char) : List Char :=
  if c = '"' ∨ c = '\\' then ['\\', c]
  else if c = '\n' then ['\\', 'n']
  else if c = '\r' then ['\\', 'r']
  else if c = '\t' then ['\\', 't']
  else if c = '\x0c' then ['\\', 'f']
  else if c = '\x08' then ['\\', 'b']
  else if c.toNat < 0x20 then unitEscape c.toNat
  else if layout.asciiOnly ∧ 0x7E < c.toNat then unicodeEscape c
  else [c]

def writeString (layout : Layout) (text : String) : List Char :=
  '"' :: (text.toList.flatMap (writeChar layout) ++ ['"'])

def newLine (layout : Layout) (depth : Nat) : List Char :=
  match layout.indent with
  | none => []
  | some width => '\n' :: List.replicate (width * depth) ' '

def betweenEntries (layout : Layout) (depth : Nat) : List Char :=
  match layout.indent with
  | none => if layout.spaced then [',', ' '] else [',']
  | some _ => ',' :: newLine layout depth

def afterKey (layout : Layout) : List Char :=
  if layout.spaced then [':', ' '] else [':']

/-- Entries between brackets; without entries, the brackets alone. -/
def enclose (layout : Layout) (depth : Nat) (opening closing : Char)
    (entries : List (List Char)) : List Char :=
  if entries.isEmpty then [opening, closing]
  else
    opening :: (newLine layout (depth + 1) ++
      Text.joinWith (betweenEntries layout (depth + 1)) entries ++
      newLine layout depth ++ [closing])

mutual

/-- The JSON text of a document that stands at some depth.  JSON has no dates; they are written as
strings. -/
def writeAt (layout : Layout) (depth : Nat) : Document → List Char
  | .null => "null".toList
  | .boolean true => "true".toList
  | .boolean false => "false".toList
  | .integer value => Text.decimalInt value
  | .decimal literal => literal.toList
  | .moment _ literal => writeString layout literal
  | .text value => writeString layout value
  | .list items => enclose layout depth '[' ']' (writeItems layout (depth + 1) items)
  | .table members => enclose layout depth '{' '}' (writeMembers layout (depth + 1) members)

def writeItems (layout : Layout) (depth : Nat) : List Document → List (List Char)
  | [] => []
  | item :: items => writeAt layout depth item :: writeItems layout depth items

def writeMembers (layout : Layout) (depth : Nat) : List (String × Document) → List (List Char)
  | [] => []
  | (key, value) :: members =>
    (writeString layout key ++ afterKey layout ++ writeAt layout depth value) ::
      writeMembers layout depth members

end

def write (layout : Layout) (document : Document) : List Char :=
  writeAt layout 0 document

end TextureCatalog.Json
