import TextureCatalog.Text.CaseTable

/-!
# Lower case

The lower-case form of a text, by which searches ignore case.  It is taken character by character,
except that the Greek capital sigma has two forms: `ς` at the end of a word and `σ` elsewhere.
-/

namespace TextureCatalog.Text

/-- The letter that follows in a text, passing over ignorable characters, has case. -/
def meetsCased (text : List Char) : Bool :=
  match text.dropWhile fun c => inRanges caseIgnorableRanges c.toNat with
  | [] => false
  | c :: _ => inRanges casedRanges c.toNat

/-- Whether a capital sigma ends a word: a cased letter comes before it and none after it.
`before` holds the characters before it, nearest first. -/
def endsWord (before after : List Char) : Bool :=
  meetsCased before && !meetsCased after

def lowerBeyondAscii (c : Char) : List Char :=
  if c = '\u0130' then ['i', '\u0307']
  else
    match capitalRuns.find? (·.covers c.toNat) with
    | none => [c]
    | some run => [Char.ofNat (Int.toNat (c.toNat + run.shift))]

def lowerChar (c : Char) : List Char :=
  if c.toNat < 128 then [c.toLower] else lowerBeyondAscii c

/-- The lower-case form of a character among its neighbours. -/
def lowerWithin (before : List Char) (c : Char) (after : List Char) : List Char :=
  if c = 'Σ' then [if endsWord before after then 'ς' else 'σ'] else lowerChar c

/-- The lower-case form of what follows the characters `before`, which are given nearest first. -/
def lowerFrom (before : List Char) : List Char → List Char
  | [] => []
  | c :: after => lowerWithin before c after ++ lowerFrom (c :: before) after

def lower (text : List Char) : List Char :=
  lowerFrom [] text

@[simp]
theorem lower_nil : lower [] = [] := rfl

end TextureCatalog.Text
