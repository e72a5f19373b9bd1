import TextureCatalog.Terminal.Folding
import TextureCatalog.Text.Newline
import TextureCatalog.Text.Substring

/-!
# Lines on a terminal

How the lines of a message are printed.
-/

namespace TextureCatalog.Terminal

def tabStop : Nat := 8

/-- The pieces between the tabs of a line, where `column` cells come before, each filled up to the
next tab stop; what is filled up takes up at least one cell more. -/
def expandPieces (column : Nat) : List (List Char) → List Char
  | [] => []
  | [piece] => piece
  | piece :: pieces =>
    let filled := piece ++ [' ']
    let stop := column + lineWidth filled
    let missing := (tabStop - stop % tabStop) % tabStop
    filled ++ spaces missing ++ expandPieces (stop + missing) pieces

/-- The line with each tab replaced by the spaces up to the next tab stop. -/
def expandTabs (line : List Char) : List Char :=
  expandPieces 0 (Text.cutAt '\t' line)

/-- A message as it is printed on a screen of some width: its lines with their tabs expanded, each
folded, and a line end. -/
def printed (width : Nat) (message : List Char) : Option (List Char) := do
  let lines ← (Text.linesOf message).mapM fun line => folded width (expandTabs line)
  return lines.flatten.flatMap fun line => line ++ ['\n']

end TextureCatalog.Terminal
