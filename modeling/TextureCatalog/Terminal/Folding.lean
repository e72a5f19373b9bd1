import TextureCatalog.Terminal.Cells
import TextureCatalog.Text.Blank

/-!
# Folded lines

A line that is wider than the screen is broken before words.  A word that is itself too wide is cut
wherever the screen ends.
-/

namespace TextureCatalog.Terminal

/-- The words of a line with the white space after each of them; the first word has also the white
space before it.  The characters of `before`, from the last to the first, belong to the word that is
being read, and `inside` says whether the word itself has begun. -/
def wordsAfter (before : List Char) (inside : Bool) : List Char → List (List Char)
  | [] => if inside then [before.reverse] else []
  | c :: rest =>
    if Text.isBlank c then wordsAfter (c :: before) inside rest
    else
      match before with
      | last :: _ =>
        if inside && Text.isBlank last then before.reverse :: wordsAfter [c] true rest
        else wordsAfter (c :: before) true rest
      | [] => wordsAfter [c] true rest

/-- Cuts clusters into lines, where `line` is the reversed beginning of the first one and takes up
`used` cells. -/
def chopAfter (width used : Nat) (line : List (List Char)) : List Cluster → List (List Char)
  | [] => [line.reverse.flatten]
  | cluster :: rest =>
    if width < used + cluster.width then
      line.reverse.flatten :: chopAfter width cluster.width [cluster.chars] rest
    else chopAfter width (used + cluster.width) (cluster.chars :: line) rest

def chop (width : Nat) (word : List Char) : List (List Char) :=
  chopAfter width 0 [] (clusters word)

/-- Fills lines with words, where `line` are the reversed words of the first line before, which take
up `used` cells. -/
def fillAfter (width used : Nat) (line : List (List Char)) : List (List Char) → List (List Char)
  | [] => [line.reverse.flatten]
  | word :: words =>
    let needed := lineWidth (Text.trimEnd word)
    if used + needed ≤ width then fillAfter width (used + lineWidth word) (word :: line) words
    else
      let finished := if line.isEmpty then [] else [line.reverse.flatten]
      if width < needed then
        let parts := chop width word
        let last := parts.getLast?.getD []
        finished ++ parts.dropLast ++ fillAfter width (lineWidth last) [last] words
      else finished ++ fillAfter width (lineWidth word) [word] words

/-- The line without so much of the white space at its end as it has characters too many. -/
def dropExcess (width : Nat) (line : List Char) : List Char :=
  let blanks := (line.reverse.takeWhile Text.isBlank).length
  line.take (line.length - min blanks (line.length - width))

/-- The lines of a screen that a line takes up, if what is too wide can be cut. -/
def folded (width : Nat) (line : List Char) : Option (List (List Char)) :=
  let lines := if Text.allBlank line then [line] else fillAfter width 0 [] (wordsAfter [] false line)
  lines.mapM fun line =>
    let line := dropExcess width line
    if width < lineWidth line then fitted width line else some line

end TextureCatalog.Terminal
