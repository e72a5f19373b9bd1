import TextureCatalog.Text.Blank

/-!
# Wrapped paragraphs

Text is broken into lines of a given width at white space, and after a hyphen between letters.
-/

namespace TextureCatalog.Text

/-- Whether a word can be broken before `after` when the characters of `before`, from the last to
the first, come right before: they end with two letters and a hyphen, and a hyphenated word goes
on. -/
def breaksAt (before after : List Char) : Bool :=
  match before, after with
  | '-' :: c :: d :: _, next :: second :: rest =>
    c.isAlpha && d.isAlpha && next.isAlpha &&
      (second.isAlpha || (second == '-' && (rest.head?.map Char.isAlpha).getD false))
  | _, _ => false

/-- The pieces between which lines can be broken: runs of white space, and words or parts of words.
The characters of `before`, from the last to the first, belong to the piece that is being read. -/
def chunksAfter (before : List Char) : List Char → List (List Char)
  | [] => if before.isEmpty then [] else [before.reverse]
  | c :: rest =>
    match before with
    | [] => chunksAfter [c] rest
    | last :: _ =>
      if isBlank last != isBlank c || breaksAt before (c :: rest) then
        before.reverse :: chunksAfter [c] rest
      else chunksAfter (c :: before) rest

/-- Fills lines with pieces, where `line` is the part of the first line before.  White space at a
line break is dropped, and a piece that is longer than a line has one for itself. -/
def fillLines (width : Nat) (line : List Char) : List (List Char) → List (List Char)
  | [] => if line.isEmpty then [] else [trimEnd line]
  | chunk :: chunks =>
    if line.isEmpty || line.length + chunk.length ≤ width then
      fillLines width (line ++ chunk) chunks
    else trimEnd line :: fillLines width (if allBlank chunk then [] else chunk) chunks

def wrap (width : Nat) (text : List Char) : List (List Char) :=
  fillLines width [] (chunksAfter [] text)

end TextureCatalog.Text
