import TextureCatalog.Text.CharacterNameTable
import TextureCatalog.Text.CodeRange
import TextureCatalog.Text.Numeral

/-!
# Names of characters

Which texts name a character.  Small and capital letters are the same in a name, except where the
name follows a rule: a syllable of Hangul is named by the letters that it is made of, and a unified
ideograph by its code point.
-/

namespace TextureCatalog.Text

/-! ## Names from the table -/

/-- A walk through the table on the lookout for one name: the number of characters of the name that
is being read, how many of its first characters are those of the wanted name, whether only the
characters in common with the name before have been counted, and whether the name was met. -/
structure NameWalk where
  length : Nat := 0
  agreed : Nat := 0
  counting : Bool := true
  found : Bool := false

namespace NameWalk

def isComplete (walk : NameWalk) (size : Nat) : Bool :=
  walk.length == size && walk.agreed == size

/-- Goes on by one character of the table. -/
def step (wanted : Array Char) (walk : NameWalk) (c : Char) : NameWalk :=
  if 'a' ≤ c ∧ c ≤ 'z' then
    let shared := c.toNat - 'a'.toNat
    if walk.counting then { walk with length := walk.length + shared }
    else
      { walk with
        length := shared, counting := true, found := walk.found || walk.isComplete wanted.size }
  else
    let agreed := min walk.agreed walk.length
    { walk with
      length := walk.length + 1
      agreed := if agreed = walk.length ∧ wanted[agreed]? = some c then agreed + 1 else agreed
      counting := false }

end NameWalk

def isTabulated (table : List String) (name : List Char) : Bool :=
  let wanted := name.toArray
  let walk := table.foldl (fun walk line => line.foldl (NameWalk.step wanted) walk) {}
  walk.found || walk.isComplete wanted.size

/-! ## Names that follow a rule -/

/-- The rest of a text after its beginning, if it begins so. -/
def afterBeginning? (beginning : String) (text : List Char) : Option (List Char) :=
  if beginning.toList.isPrefixOf text then some (text.drop beginning.length) else none

/-- The letters with which a syllable of Hangul can begin; it can also begin with a vowel. -/
def leadingLetters : List String :=
  ["", "G", "GG", "N", "D", "DD", "R", "M", "B", "BB", "S", "SS", "J", "JJ", "C", "K", "T", "P", "H"]

def vowelLetters : List String :=
  ["A", "AE", "YA", "YAE", "EO", "E", "YEO", "YE", "O", "WA", "WAE", "OE", "YO", "U", "WEO", "WE",
   "WI", "YU", "EU", "YI", "I"]

/-- The letters with which a syllable of Hangul can end; it can also end with a vowel. -/
def trailingLetters : List String :=
  ["", "G", "GG", "GS", "N", "NJ", "NH", "D", "L", "LG", "LM", "LB", "LS", "LT", "LP", "LH", "M", "B",
   "BS", "S", "SS", "NG", "J", "C", "K", "T", "P", "H"]

def isVowelLetter (c : Char) : Bool :=
  "AEIOUWY".toList.contains c

def isSyllable (letters : List Char) : Bool :=
  let leading := letters.takeWhile (!isVowelLetter ·)
  let rest := letters.dropWhile (!isVowelLetter ·)
  leadingLetters.contains (String.ofList leading) &&
    vowelLetters.contains (String.ofList (rest.takeWhile isVowelLetter)) &&
    trailingLetters.contains (String.ofList (rest.dropWhile isVowelLetter))

def ideographRanges : List CodeRange :=
  [(0x3400, 0x4DBF), (0x4E00, 0x9FFF), (0x20000, 0x2A6DF), (0x2A700, 0x2B738), (0x2B740, 0x2B81D),
   (0x2B820, 0x2CEA1), (0x2CEB0, 0x2EBE0), (0x30000, 0x3134A)]

/-- Whether four or five hexadecimal digits in capital letters are the code point of a unified
ideograph. -/
def isIdeographCode (digits : List Char) : Bool :=
  (digits.length == 4 || digits.length == 5) && !digits.any Char.isLower &&
    (hexValue? digits).any (inRanges ideographRanges)

/-! ## All names -/

def isCharacterName (name : List Char) : Bool :=
  match afterBeginning? "HANGUL SYLLABLE " name with
  | some letters => isSyllable letters
  | none =>
    match afterBeginning? "CJK UNIFIED IDEOGRAPH-" name with
    | some digits => isIdeographCode digits
    | none => isTabulated characterNameTable (name.map Char.toUpper)

end TextureCatalog.Text
