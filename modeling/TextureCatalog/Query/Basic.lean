import TextureCatalog.Query.Comparison
import TextureCatalog.Text.Substring

/-!
# Queries

A query is a list of terms, all of which or one of which must match.  A bar separates alternatives
and wins over the comma, which separates requirements; an exclamation mark negates a term.
-/

namespace TextureCatalog.Query

/-- A term of a query.  If it has a comparison, that decides; else its text is searched for. -/
structure Term where
  text : String
  negated : Bool := false
  comparison : Option Comparison := none
  deriving DecidableEq, Repr

/-- Reads a term: one exclamation mark at its beginning negates it. -/
def Term.parse (term : String) : Except Fault Term :=
  let (negated, text) := match term.toList with
    | '!' :: rest => (true, String.ofList rest)
    | _ => (false, term)
  (Comparison.parse text).map fun comparison => ⟨text, negated, comparison⟩

inductive Mode
  | all
  | any
  deriving DecidableEq, Repr

def Mode.separator : Mode → Char
  | .all => ','
  | .any => '|'

/-- A bar anywhere in a query makes its terms alternatives. -/
def Mode.ofText (query : List Char) : Mode :=
  if '|' ∈ query then .any else .all

/-- The terms of a query text as they were written: its pieces without white space around them,
leaving out empty ones. -/
def splitTerms (query : String) : Mode × List String :=
  let mode := Mode.ofText query.toList
  let pieces := (Text.cutAt mode.separator query.toList).map Text.trim
  (mode, (pieces.filter fun piece => !piece.isEmpty).map String.ofList)

end Query

structure Query where
  mode : Query.Mode := .all
  terms : List Query.Term := []
  deriving DecidableEq, Repr

namespace Query

/-- Reads a query; a blank text is no query at all. -/
def parse (query : String) : Except Fault (Option Query) :=
  if Text.isBlankText query then .ok none
  else do
    let (mode, terms) := splitTerms query
    return some ⟨mode, ← terms.mapM Term.parse⟩

end TextureCatalog.Query
