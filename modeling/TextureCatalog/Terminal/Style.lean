/-!
# Styles

The styles in which parts of a table are painted.
-/

namespace TextureCatalog.Terminal

inductive Style
  | plain
  | bold
  | green
  | yellow
  | magenta
  | underlinedBlue
  deriving DecidableEq, Repr

namespace Style

/-- The parameters of the escape sequence that turns a style on; the plain style has none. -/
def parameters : Style → String
  | .plain => ""
  | .bold => "1"
  | .green => "32"
  | .yellow => "33"
  | .magenta => "35"
  | .underlinedBlue => "4;34"

/-- A text between the sequences that turn a style on and off.  An empty text needs none. -/
def paint (style : Style) (text : List Char) : List Char :=
  if style = .plain ∨ text = [] then text
  else '\x1b' :: '[' :: (style.parameters.toList ++ 'm' :: (text ++ "\x1b[0m".toList))

end Style

structure Painted where
  style : Style := .plain
  text : List Char
  deriving DecidableEq, Repr

/-- The text with its style, or alone on a terminal without color. -/
def Painted.render (painted : Painted) (colored : Bool) : List Char :=
  if colored then painted.style.paint painted.text else painted.text

end TextureCatalog.Terminal
