import TextureCatalog.Text.Lowercase
import TextureCatalog.Text.Numeral

/-!
# Screens

What is said about the terminal from outside, and how wide messages and tables are because of that.
Messages are written by a console that is assumed to have a fixed width, so the size that is said
has no influence on it, but it must not look like a number that cannot be read.
-/

namespace TextureCatalog.Terminal

/-- What is said about the terminal: its name, its numbers of columns and lines, and whether the
output is to be treated as a terminal.  What is not said is empty. -/
structure Screen where
  name : String := ""
  columns : String := ""
  lines : String := ""
  insisted : Bool := false
  deriving DecidableEq, Repr

namespace Screen

/-- The cells of a line of messages.  It is an assumption on the console that it is this wide; one
that takes its width from the terminal folds long messages. -/
def messageWidth : Nat := 10000

def tableWidth : Nat := 1000

def simpleWidth : Nat := 80

/-- The screen as environment variables describe it.  Compatibility with terminals goes before the
wish for colors. -/
def ofVariables (value? : String → Option String) : Screen :=
  { name := (value? "TERM").getD ""
    columns := (value? "COLUMNS").getD ""
    lines := (value? "LINES").getD ""
    insisted :=
      match value? "TTY_COMPATIBLE" with
      | some "0" => false
      | some "1" => true
      | _ => (value? "FORCE_COLOR").any (!·.isEmpty) }

def isSimple (screen : Screen) : Bool :=
  ["dumb", "unknown"].contains (String.ofList (Text.lower screen.name.toList))

def columnsUnreadable (screen : Screen) : Bool :=
  Text.isUnreadableNumeral screen.columns.toList

def linesUnreadable (screen : Screen) : Bool :=
  Text.isUnreadableNumeral screen.lines.toList

/-- The cells of a line of messages, unless the size is unreadable. -/
def messageWidth? (screen : Screen) : Option Nat :=
  if screen.insisted && screen.isSimple then some simpleWidth
  else if screen.columnsUnreadable || screen.linesUnreadable then none
  else some messageWidth

/-- The cells of a line of tables, unless the size is unreadable.  A table with colors is treated as
if it were shown on the terminal, whose number of lines can do without the rest. -/
def tableWidth? (screen : Screen) (colored : Bool) : Option Nat :=
  if screen.linesUnreadable then none
  else if Text.isDigits screen.lines.toList then some tableWidth
  else if colored && screen.isSimple then some simpleWidth
  else if screen.columnsUnreadable then none
  else some tableWidth

end Screen

end TextureCatalog.Terminal
