import TextureCatalog.Text.Numeral
import TextureCatalog.Text.Substring

/-!
# Writing TOML

Documents of sections with simple values, as TOML texts.
-/

namespace TextureCatalog.Toml

inductive Scalar
  | boolean (value : Bool)
  | integer (value : Int)
  | text (value : String)
  deriving DecidableEq, Repr

structure Section where
  name : String
  entries : List (String × Scalar)
  deriving DecidableEq, Repr

/-- A character as it stands in a basic string: marks, backslashes and control characters are
escaped, except the tab. -/
def writeChar (c : Char) : List Char :=
  if c = '"' ∨ c = '\\' then ['\\', c]
  else if c = '\x08' then ['\\', 'b']
  else if c = '\n' then ['\\', 'n']
  else if c = '\x0c' then ['\\', 'f']
  else if c = '\r' then ['\\', 'r']
  else if (c.toNat < 0x20 ∧ c ≠ '\t') ∨ c.toNat = 0x7F then '\\' :: 'u' :: Text.hexPadded 4 c.toNat
  else [c]

def writeString (text : String) : List Char :=
  '"' :: (text.toList.flatMap writeChar ++ ['"'])

def Scalar.write : Scalar → List Char
  | .boolean true => "true".toList
  | .boolean false => "false".toList
  | .integer value => Text.decimalInt value
  | .text value => writeString value

def writeEntry (entry : String × Scalar) : List Char :=
  entry.1.toList ++ " = ".toList ++ entry.2.write ++ ['\n']

def Section.write (table : Section) : List Char :=
  '[' :: (table.name.toList ++ "]\n".toList ++ table.entries.flatMap writeEntry)

/-- Sections with an empty line between each two of them.  The names of sections and entries are
letters, digits, dashes and underscores. -/
def write (tables : List Section) : List Char :=
  Text.joinWith ['\n'] (tables.map Section.write)

end TextureCatalog.Toml
