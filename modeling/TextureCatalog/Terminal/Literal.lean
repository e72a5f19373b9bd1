import TextureCatalog.Terminal.LiteralToken

/-!
# Literals

Which texts write down a value.  There are numbers with a sign, sums of a real and an imaginary
number, texts, strings of bytes, constants, rows of values, sets and tables.  The keys of a table
and the members of a set must not be sets or tables themselves, nor rows that hold some.
-/

namespace TextureCatalog.Terminal.Literal

/-- What part of a literal was read: a number without or with a sign, another value that can or
cannot be a key of a table, or the word from which the empty set is made. -/
inductive Form
  | number (number : Number)
  | signed (number : Number)
  | plain
  | collection
  | setWord
  deriving DecidableEq, Repr

namespace Form

def isValue : Form → Bool
  | .setWord => false
  | _ => true

def isKey : Form → Bool
  | .setWord | .collection => false
  | _ => true

def row (forms : List Form) : Option Form :=
  if !forms.all isValue then none
  else if forms.all isKey then some .plain
  else some .collection

end Form

/-- The least whole number that is too large for a number with a fraction. -/
def unroundable : Nat :=
  Nat.shiftLeft 1 1024 - Nat.shiftLeft 1 970

/-- Whether a number can be added to an imaginary one. -/
def Number.isAddable : Number → Bool
  | .integer value => value < unroundable
  | .fraction => true
  | .imaginary => false

/-- The sum or the difference of two forms. -/
def sum? (left right : Form) : Option Form :=
  match left, right with
  | .number real, .number .imaginary => if real.isAddable then some .plain else none
  | .signed real, .number .imaginary => if real.isAddable then some .plain else none
  | _, _ => none

def constants : List String := ["True", "False", "None", "..."]

/-- The shapes of the three letters of the word from which the empty set is made. -/
def setWordShapes : List String :=
  ["sſˢₛｓ𝐬𝑠𝒔𝓈𝓼𝔰𝕤𝖘𝗌𝘀𝘴𝙨𝚜", "eᵉₑℯⅇｅ𝐞𝑒𝒆𝓮𝔢𝕖𝖊𝖾𝗲𝘦𝙚𝚎",
   "tᵗₜｔ𝐭𝑡𝒕𝓉𝓽𝔱𝕥𝖙𝗍𝘁𝘵𝙩𝚝"]

/-- Whether a name is the word from which the empty set is made, with letters of whatever shape. -/
def isSetWord (name : List Char) : Bool :=
  name.length == setWordShapes.length &&
    (name.zip setWordShapes).all fun (c, shapes) => shapes.toList.contains c

def wordForm? (name : List Char) : Option Form :=
  if constants.contains (String.ofList name) then some .plain
  else if isSetWord name then some .setWord
  else none

/-- The rest after tokens of one sort, unless a token of another sort comes next. -/
def afterRun (token other : Token) (tokens : List Token) : Option (List Token) :=
  let rest := tokens.dropWhile (· == token)
  if rest.head? = some other then none else some rest

/-- The empty set, if it is called for after its word. -/
def afterAtom (form : Form) (tokens : List Token) : Form × List Token :=
  match form, tokens with
  | .setWord, .opening :: .closing :: rest => (.collection, rest)
  | _, _ => (form, tokens)

mutual

/-- Reads a value or a sum of two.  Each step of `fuel` allows one more part to be entered. -/
def readSum : Nat → List Token → Option (Form × List Token)
  | 0, _ => none
  | fuel + 1, tokens => do
    let (left, rest) ← readSigned fuel tokens
    match rest with
    | .plus :: rest | .minus :: rest =>
      let (right, rest) ← readSigned fuel rest
      return (← sum? left right, rest)
    | _ => return (left, rest)

/-- Reads a value, which may have a sign if it is a number. -/
def readSigned : Nat → List Token → Option (Form × List Token)
  | 0, _ => none
  | fuel + 1, tokens => do
    match tokens with
    | .plus :: rest | .minus :: rest =>
      match ← readSigned fuel rest with
      | (.number number, rest) => return (.signed number, rest)
      | _ => none
    | _ =>
      let (form, rest) ← readAtom fuel tokens
      return afterAtom form rest

def readAtom : Nat → List Token → Option (Form × List Token)
  | 0, _ => none
  | fuel + 1, tokens => do
    match tokens with
    | .number number :: rest => return (.number number, rest)
    | .text :: rest => return (.plain, ← afterRun .text .bytes rest)
    | .bytes :: rest => return (.plain, ← afterRun .bytes .text rest)
    | .word name :: rest => return (← wordForm? name, rest)
    | .opening :: .closing :: rest => return (.plain, rest)
    | .opening :: rest =>
      match ← readItems fuel .closing rest with
      | (([form], false), rest) => return (form, rest)
      | ((forms, _), rest) => return (← Form.row forms, rest)
    | .openingBrace :: .closingBrace :: rest => return (.collection, rest)
    | .openingBrace :: rest =>
      let (first, afterFirst) ← readSum fuel rest
      match afterFirst with
      | .colon :: _ => return (.collection, ← readEntries fuel rest)
      | _ =>
        let ((forms, _), rest) ← readItems fuel .closingBrace rest
        if first.isKey && forms.all Form.isKey then return (.collection, rest) else none
    | _ => none

/-- Reads values between commas up to a closing token.  Tells also whether a comma comes last. -/
def readItems : Nat → Token → List Token → Option ((List Form × Bool) × List Token)
  | 0, _, _ => none
  | fuel + 1, close, tokens => do
    let (form, rest) ← readSum fuel tokens
    match rest with
    | .comma :: rest =>
      if rest.head? = some close then return (([form], true), rest.tail)
      else
        let ((forms, trailing), rest) ← readItems fuel close rest
        return ((form :: forms, trailing), rest)
    | token :: rest => if token = close then return (([form], false), rest) else none
    | [] => none

def readEntries : Nat → List Token → Option (List Token)
  | 0, _ => none
  | fuel + 1, tokens => do
    let (key, rest) ← readSum fuel tokens
    let rest ← if rest.head? = some .colon then some rest.tail else none
    let (value, rest) ← readSum fuel rest
    if !key.isKey || !value.isValue then none
    else
      match rest with
      | .closingBrace :: rest => return rest
      | .comma :: .closingBrace :: rest => return rest
      | .comma :: rest => readEntries fuel rest
      | _ => none

end

/-- Whether some tokens make a literal; values between commas are a row. -/
def isLiteralTokens (tokens : List Token) : Bool :=
  let line := if tokens.getLast? = some .lineEnd then tokens else tokens ++ [.lineEnd]
  match readItems (4 * line.length + 4) .lineEnd line with
  | some ((forms, _), []) => forms.all Form.isValue
  | _ => false

def isLiteral (text : List Char) : Bool :=
  (tokensOf text).any isLiteralTokens

end TextureCatalog.Terminal.Literal
