/-!
# Similar words

How much two words have in common, and the words that were probably meant by a misspelled one.
-/

namespace TextureCatalog.Text

def commonStart : List Char → List Char → Nat
  | a :: left, b :: right => if a = b then commonStart left right + 1 else 0
  | _, _ => 0

/-- A common part of two words: where it begins in each, and its length. -/
structure CommonPart where
  left : Nat
  right : Nat
  length : Nat
  deriving DecidableEq, Repr

/-- The longest common part; of several the one that begins first in the left word, and then in the
right one. -/
def longestCommonPart (left right : List Char) : CommonPart :=
  let candidates := (List.range left.length).flatMap fun i =>
    (List.range right.length).map fun j =>
      CommonPart.mk i j (commonStart (left.drop i) (right.drop j))
  candidates.foldl (fun best next => if best.length < next.length then next else best) ⟨0, 0, 0⟩

/-- The number of characters in common parts: those of the longest one, and those of the texts
before and after it.  At most `depth` parts are taken out of each other. -/
def commonCount : Nat → List Char → List Char → Nat
  | 0, _, _ => 0
  | depth + 1, left, right =>
    let part := longestCommonPart left right
    if part.length = 0 then 0
    else
      part.length + commonCount depth (left.take part.left) (right.take part.right) +
        commonCount depth (left.drop (part.left + part.length))
          (right.drop (part.right + part.length))

/-- How similar two words are: the characters that they share, counted twice, over all of them. -/
structure Similarity where
  shared : Nat
  total : Nat
  deriving DecidableEq, Repr

def similarity (left right : String) : Similarity :=
  let (left, right) := (left.toList, right.toList)
  ⟨2 * commonCount left.length left right, left.length + right.length⟩

/-- Whether at least three fifths are shared. -/
def Similarity.isClose (similarity : Similarity) : Bool :=
  3 * similarity.total ≤ 5 * similarity.shared

/-- Whether a word with its similarity comes before another one: the more similar word, and of
equally similar words the one that comes later in the order of words. -/
def comesBefore (first second : String × Similarity) : Bool :=
  let left := first.2.shared * second.2.total
  let right := second.2.shared * first.2.total
  right < left || (right == left && decide (second.1 ≤ first.1))

/-- The words that are close to a word, three at most, in the order of words. -/
def closeWords (word : String) (words : List String) : List String :=
  let close := (words.map fun other => (other, similarity other word)).filter (·.2.isClose)
  (((close.mergeSort comesBefore).take 3).map (·.1)).mergeSort fun first second =>
    decide (first ≤ second)

end TextureCatalog.Text
