import TextureCatalog.Text.CodeRange

/-!
# Blank characters and trimming

What counts as white space around a query term, and in deciding whether a text is blank.  The zero
width space U+200B and the byte order mark U+FEFF are not blank.
-/

namespace TextureCatalog.Text

/-- The white space of Unicode together with the separators U+001C to U+001F. -/
def blankRanges : List CodeRange :=
  [(0x9, 0xD), (0x1C, 0x20), (0x85, 0x85), (0xA0, 0xA0), (0x1680, 0x1680), (0x2000, 0x200A),
   (0x2028, 0x2029), (0x202F, 0x202F), (0x205F, 0x205F), (0x3000, 0x3000)]

def isBlank (c : Char) : Bool :=
  inRanges blankRanges c.toNat

def trimEnd (text : List Char) : List Char :=
  (text.reverse.dropWhile isBlank).reverse

def trim (text : List Char) : List Char :=
  trimEnd (text.dropWhile isBlank)

/-- The words of a text, which are separated by white space. -/
def wordsOf : List Char → List (List Char)
  | [] => []
  | c :: rest =>
    if isBlank c then wordsOf rest
    else
      match rest.head?.map isBlank, wordsOf rest with
      | some false, word :: words => (c :: word) :: words
      | _, words => [c] :: words

def allBlank (text : List Char) : Bool :=
  text.all isBlank

def trimmed (text : String) : String :=
  String.ofList (trim text.toList)

def isBlankText (text : String) : Bool :=
  allBlank text.toList

@[simp]
theorem trim_nil : trim [] = [] := rfl

@[simp]
theorem toList_trimmed (text : String) : (trimmed text).toList = trim text.toList := by
  simp [trimmed]

end TextureCatalog.Text
