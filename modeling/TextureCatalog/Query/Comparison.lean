import TextureCatalog.Text.Numeral

/-!
# Resolution comparisons

A query term such as `>2048` or `1024<` compares the larger dimension of a texture with a number.
-/

namespace TextureCatalog.Query

/-- Why a search fails: a comparison in the query has more digits than are ever read, or a dimension
in which a text is looked for has more than are ever written. -/
inductive Fault
  | numeralTooLong
  | dimensionTooLong
  deriving DecidableEq, Repr

def Fault.message : Fault → String
  | .numeralTooLong => "A number in the query has too many digits."
  | .dimensionTooLong => "A dimension of a texture has too many digits."

inductive Operator
  | greater
  | less
  | atLeast
  | atMost
  | equal
  | unrecognized (symbol : String)
  deriving DecidableEq, Repr

namespace Operator

def symbol : Operator → String
  | .greater => ">"
  | .less => "<"
  | .atLeast => ">="
  | .atMost => "<="
  | .equal => "="
  | .unrecognized symbol => symbol

def ofSymbol (symbol : String) : Operator :=
  match symbol with
  | ">" => .greater
  | "<" => .less
  | ">=" => .atLeast
  | "<=" => .atMost
  | "=" => .equal
  | _ => .unrecognized symbol

/-- Whether the comparison holds.  By a symbol that is not recognized, nothing compares. -/
def holds : Operator → Int → Int → Bool
  | .greater, measure, bound => bound < measure
  | .less, measure, bound => measure < bound
  | .atLeast, measure, bound => bound ≤ measure
  | .atMost, measure, bound => measure ≤ bound
  | .equal, measure, bound => measure == bound
  | .unrecognized _, _, _ => false

end Operator

structure Comparison where
  operator : Operator
  value : Int
  deriving DecidableEq, Repr

namespace Comparison

def evaluate (comparison : Comparison) (measure : Int) : Bool :=
  comparison.operator.holds measure comparison.value

/-- The largest number of a comparison, which is the largest signed number of 32 bits; a term with a
larger one is searched as text. -/
def maxValue : Nat := 2147483647

/-- The operator at the beginning of a term; of two that fit, the longer one. -/
def prefixOperator? : List Char → Option (Operator × List Char)
  | '>' :: '=' :: rest => some (.atLeast, rest)
  | '<' :: '=' :: rest => some (.atMost, rest)
  | '>' :: rest => some (.greater, rest)
  | '<' :: rest => some (.less, rest)
  | '=' :: rest => some (.equal, rest)
  | _ => none

/-- The operator at the end of a term.  `1024<` says that 1024 is less than the texture, so the
operator applies the other way around. -/
def postfixOperator? : List Char → Option Operator
  | ['<'] => some .greater
  | ['>'] => some .less
  | _ => none

def isDigits (text : List Char) : Bool :=
  !text.isEmpty && text.all Char.isDigit

/-- The operator and the digits of a term that has the shape of a comparison. -/
def shape? (term : List Char) : Option (Operator × List Char) :=
  match prefixOperator? term with
  | some (operator, digits) => if isDigits digits then some (operator, digits) else none
  | none =>
    let digits := term.takeWhile Char.isDigit
    if digits.isEmpty then none
    else (postfixOperator? (term.dropWhile Char.isDigit)).map fun operator => (operator, digits)

/-- Reads a term as a comparison; `none` if it is to be searched as text.  The number must not have
more digits than are ever read. -/
def parse (term : String) : Except Fault (Option Comparison) :=
  match shape? term.toList with
  | none => .ok none
  | some (operator, digits) =>
    if Text.numeralLimit < digits.length then .error .numeralTooLong
    else
      let value := Text.decimalValue digits
      .ok (if value ≤ maxValue then some ⟨operator, value⟩ else none)

end Comparison

end TextureCatalog.Query
