import TextureCatalog.Text.Newline
import TextureCatalog.Text.Quoted

/-!
# Faults in TOML texts

What can be wrong with a TOML text, how it is put in words, and what was read from a text that is
not at fault.
-/

namespace TextureCatalog.Toml

abbrev Key := List String

/-- A key as messages show it: its parts in parentheses, each followed by a comma if it is the only
one, and separated by commas if there are more. -/
def keyText (key : Key) : String :=
  match key with
  | [part] => s!"({Text.quoted part},)"
  | parts => "(" ++ ", ".intercalate (parts.map Text.quoted) ++ ")"

inductive Problem
  | statement
  | lineEnd
  | expected (mark : String)
  | invalidCharacter (c : Char)
  | declaredTwice (key : Key)
  | overwritten
  | tableEnd
  | arrayTableEnd
  | immutable (key : Key)
  | redefined (key : Key)
  | equalsSign
  | keyStart
  | unclosedArray
  | unclosedInlineTable
  | duplicateKey (part : String)
  | backslash
  | hexDigits
  | scalarValue
  | unterminated
  | illegalCharacter (c : Char)
  | date
  | value
  deriving DecidableEq, Repr

def Problem.message : Problem → String
  | .statement => "Invalid statement"
  | .lineEnd => "Expected newline or end of document after a statement"
  | .expected mark => s!"Expected {Text.quoted mark}"
  | .invalidCharacter c => s!"Found invalid character {Text.quoted (String.ofList [c])}"
  | .declaredTwice key => s!"Cannot declare {keyText key} twice"
  | .overwritten => "Cannot overwrite a value"
  | .tableEnd => "Expected ']' at the end of a table declaration"
  | .arrayTableEnd => "Expected ']]' at the end of an array declaration"
  | .immutable key => s!"Cannot mutate immutable namespace {keyText key}"
  | .redefined key => s!"Cannot redefine namespace {keyText key}"
  | .equalsSign => "Expected '=' after a key in a key/value pair"
  | .keyStart => "Invalid initial character for a key part"
  | .unclosedArray => "Unclosed array"
  | .unclosedInlineTable => "Unclosed inline table"
  | .duplicateKey part => s!"Duplicate inline table key {Text.quoted part}"
  | .backslash => "Unescaped '\\' in a string"
  | .hexDigits => "Invalid hex value"
  | .scalarValue => "Escaped character is not a Unicode scalar value"
  | .unterminated => "Unterminated string"
  | .illegalCharacter c => s!"Illegal character {Text.quoted (String.ofList [c])}"
  | .date => "Invalid date or datetime"
  | .value => "Invalid value"

/-- Why a text is not read: it is not TOML, which shows where `remaining` characters are left, or it
holds an integer with more digits than are ever read. -/
inductive Fault
  | malformed (problem : Problem) (remaining : Nat)
  | numeralTooLong (digits : Nat)
  deriving DecidableEq, Repr

def Fault.message (text : List Char) : Fault → String
  | .malformed problem remaining =>
    let place :=
      if remaining = 0 then "end of document"
      else
        let (line, column) := Text.lineAndColumn text (text.length - remaining)
        s!"line {line}, column {column}"
    s!"{problem.message} (at {place})"
  | .numeralTooLong digits =>
    s!"Exceeds the limit ({Text.numeralLimit} digits) for integer string conversion: " ++
      s!"value has {digits} digits; use sys.set_int_max_str_digits() to increase the limit"

/-- What was read from the beginning of a text, and the rest of the text. -/
abbrev Reading (α : Type) := Except Fault (α × List Char)

def Reading.map {α β : Type} (change : α → β) : Reading α → Reading β
  | .error fault => .error fault
  | .ok (value, rest) => .ok (change value, rest)

end TextureCatalog.Toml
