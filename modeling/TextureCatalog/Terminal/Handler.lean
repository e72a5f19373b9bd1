import TextureCatalog.Terminal.Literal
import TextureCatalog.Text.Blank
import TextureCatalog.Text.WordTable

/-!
# Handlers

The parameters of a tag that stands for an action name a handler, which may be given arguments in
parentheses, or they are a literal.
-/

namespace TextureCatalog.Terminal

def isHandlerChar (c : Char) : Bool :=
  Text.isWordChar c || c == '.'

/-- Whether a text begins and ends with parentheses and is a single line. -/
def isParenthesized (text : List Char) : Bool :=
  text.head? == some '(' && text.getLast? == some ')' && !text.contains '\n'

def isHandler (parameters : List Char) : Bool :=
  let parameters := Text.trim parameters
  let arguments := parameters.dropWhile isHandlerChar
  arguments.isEmpty || Literal.isLiteral (if isParenthesized arguments then arguments else parameters)

end TextureCatalog.Terminal
