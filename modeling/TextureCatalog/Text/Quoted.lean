import TextureCatalog.Text.Numeral
import TextureCatalog.Text.PrintableTable

/-!
# Quoted texts

How a text is shown inside a message: between quotation marks, with the characters that would not
show written as escapes.
-/

namespace TextureCatalog.Text

/-- The mark around a quoted text: an apostrophe, unless the text holds an apostrophe and no double
quotation mark. -/
def quotationMark (text : List Char) : Char :=
  if '\'' ∈ text ∧ '"' ∉ text then '"' else '\''

def quoteChar (mark c : Char) : List Char :=
  if c = mark ∨ c = '\\' then ['\\', c]
  else if c = '\t' then ['\\', 't']
  else if c = '\n' then ['\\', 'n']
  else if c = '\r' then ['\\', 'r']
  else if isPrintable c then [c]
  else if c.toNat ≤ 0xFF then '\\' :: 'x' :: hexPadded 2 c.toNat
  else if c.toNat ≤ 0xFFFF then '\\' :: 'u' :: hexPadded 4 c.toNat
  else '\\' :: 'U' :: hexPadded 8 c.toNat

def quote (text : List Char) : List Char :=
  let mark := quotationMark text
  mark :: (text.flatMap (quoteChar mark) ++ [mark])

def quoted (text : String) : String :=
  String.ofList (quote text.toList)

end TextureCatalog.Text
