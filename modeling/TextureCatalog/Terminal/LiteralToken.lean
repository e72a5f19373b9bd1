import TextureCatalog.Text.CharacterName
import TextureCatalog.Text.Newline
import TextureCatalog.Text.Numeral

/-!
# Tokens of literals

A literal writes down a value: a number, a text, a constant, or a collection of values.  Its text is
cut into tokens here; blanks, comments and the line ends inside of brackets do not count.
-/

namespace TextureCatalog.Terminal.Literal

inductive Number
  | integer (value : Nat)
  | fraction
  | imaginary
  deriving DecidableEq, Repr

/-- A token.  Nothing depends on which characters a text or a string of bytes consists of. -/
inductive Token
  | opening
  | closing
  | openingBrace
  | closingBrace
  | comma
  | colon
  | plus
  | minus
  | number (number : Number)
  | text
  | bytes
  | word (name : List Char)
  | lineEnd
  deriving DecidableEq, Repr

/-- A token and the rest of the text, if the text begins with a token. -/
abbrev Scan := Option (Token × List Char)

def startsWord (c : Char) : Bool :=
  c.isAlpha || c == '_' || 0x80 ≤ c.toNat

def continuesWord (c : Char) : Bool :=
  startsWord c || c.isDigit

/-! ## Numbers -/

/-- The digits at the beginning of a text, and the rest.  A single underscore may stand between two
digits. -/
def spanDigits (isDigit : Char → Bool) : List Char → List Char × List Char
  | [] => ([], [])
  | c :: '_' :: rest =>
    if !isDigit c then ([], c :: '_' :: rest)
    else if rest.head?.any isDigit then
      let (digits, after) := spanDigits isDigit rest
      (c :: digits, after)
    else ([c], '_' :: rest)
  | c :: rest =>
    if !isDigit c then ([], c :: rest)
    else
      let (digits, after) := spanDigits isDigit rest
      (c :: digits, after)

def valueIn (base : Nat) (digits : List Char) : Nat :=
  digits.foldl (fun value c => base * value + (Text.hexDigitValue? c).getD 0) 0

/-- The base that a letter after a zero stands for. -/
def baseOf? (c : Char) : Option Nat :=
  match c.toLower with
  | 'x' => some 16
  | 'o' => some 8
  | 'b' => some 2
  | _ => none

def scanInBase (base : Nat) (text : List Char) : Option (Number × List Char) :=
  let digits := match text with
    | '_' :: rest => rest
    | _ => text
  match spanDigits (fun c => (Text.hexDigitValue? c).any (· < base)) digits with
  | ([], _) => none
  | (digits, rest) => some (.integer (valueIn base digits), rest)

/-- The rest of a text after an exponent, if it begins with one. -/
def afterExponent? : List Char → Option (List Char)
  | [] => none
  | c :: rest =>
    if c.toLower = 'e' then
      let unsigned := match rest with
        | '+' :: digits => digits
        | '-' :: digits => digits
        | _ => rest
      match spanDigits Char.isDigit unsigned with
      | ([], _) => none
      | (_, after) => some after
    else none

/-- A whole number from its digits.  Only zero may begin with a zero, and the digits must not be more
than are ever read. -/
def wholeNumber? (digits : List Char) : Option Number :=
  if digits.all (· == '0') then some (.integer 0)
  else if digits.head? = some '0' ∨ Text.numeralLimit < digits.length then none
  else some (.integer (Text.decimalValue digits))

def scanDecimal (text : List Char) : Option (Number × List Char) :=
  let (digits, rest) := spanDigits Char.isDigit text
  let (hasPoint, rest) := match rest with
    | '.' :: fraction => (true, (spanDigits Char.isDigit fraction).2)
    | _ => (false, rest)
  let exponent := afterExponent? rest
  let rest := exponent.getD rest
  match rest with
  | 'j' :: rest => some (.imaginary, rest)
  | 'J' :: rest => some (.imaginary, rest)
  | _ =>
    if hasPoint || exponent.isSome then some (.fraction, rest)
    else (wholeNumber? digits).map fun number => (number, rest)

/-- Scans a number, which must not run into a word. -/
def scanNumber (text : List Char) : Scan := do
  let (number, rest) ← match text with
    | '0' :: c :: digits =>
      match baseOf? c with
      | some base => scanInBase base digits
      | none => scanDecimal text
    | _ => scanDecimal text
  if rest.head?.any continuesWord then none else some (.number number, rest)

/-! ## Texts -/

/-- What stands between quotation marks, with its escapes, and the rest after the closing mark. -/
def spanQuoted (mark : Char) : List Char → Option (List Char × List Char)
  | [] => none
  | '\\' :: c :: rest => (spanQuoted mark rest).map fun (content, after) => ('\\' :: c :: content, after)
  | c :: rest =>
    if c = mark then some ([], rest)
    else if c = '\n' then none
    else (spanQuoted mark rest).map fun (content, after) => (c :: content, after)

/-- What stands between three quotation marks on each side; it can have many lines. -/
def spanTripleQuoted (mark : Char) : List Char → Option (List Char × List Char)
  | [] => none
  | '\\' :: c :: rest =>
    (spanTripleQuoted mark rest).map fun (content, after) => ('\\' :: c :: content, after)
  | c :: rest =>
    if c = mark ∧ rest.take 2 = [mark, mark] then some ([], rest.drop 2)
    else (spanTripleQuoted mark rest).map fun (content, after) => (c :: content, after)

/-- Whether a text begins with so many hexadecimal digits, whose number is at most `most`. -/
def startsWithCode (count most : Nat) (text : List Char) : Bool :=
  (text.take count).length == count && (Text.hexValue? (text.take count)).any (· ≤ most)

/-- Whether a text begins with the name of a character in braces. -/
def startsWithCharName (text : List Char) : Bool :=
  let name := (text.drop 1).takeWhile (· != '}')
  text.head? == some '{' && name.length + 1 < text.length && Text.isCharacterName name

/-- Whether the characters after a backslash make an escape; letters that mean nothing special are
allowed.  Strings of bytes have no escapes for characters beyond a byte. -/
def isEscape (inBytes : Bool) : List Char → Bool
  | 'x' :: rest => startsWithCode 2 0xFF rest
  | 'u' :: rest => inBytes || startsWithCode 4 0xFFFF rest
  | 'U' :: rest => inBytes || startsWithCode 8 0x10FFFF rest
  | 'N' :: rest => inBytes || startsWithCharName rest
  | _ => true

/-- Whether all escapes of a quoted content are right. -/
def escapesAreRight (inBytes : Bool) : List Char → Bool
  | [] => true
  | '\\' :: c :: rest => isEscape inBytes (c :: rest) && escapesAreRight inBytes rest
  | _ :: rest => escapesAreRight inBytes rest

/-- The letters before a quotation mark that say how to read what follows: as bytes, with escapes
left as they are, or as a text without more ado. -/
def quotePrefixes : List String := ["", "r", "u", "b", "br", "rb"]

/-- Scans a quoted text after its prefix. -/
def scanQuoted (letters text : List Char) : Scan :=
  let kind := letters.map Char.toLower
  if !quotePrefixes.contains (String.ofList kind) then none
  else
    match text with
    | [] => none
    | mark :: rest => do
      let (content, after) ←
        if rest.take 2 = [mark, mark] then spanTripleQuoted mark (rest.drop 2)
        else spanQuoted mark rest
      let inBytes := kind.contains 'b'
      if inBytes && content.any (fun c => 0x80 ≤ c.toNat) then none
      else if !kind.contains 'r' && !escapesAreRight inBytes content then none
      else some (if inBytes then .bytes else .text, after)

def isQuote (c : Char) : Bool :=
  c == '"' || c == '\''

/-! ## All tokens -/

def scanToken (text : List Char) : Scan :=
  match text with
  | '(' :: rest => some (.opening, rest)
  | ')' :: rest => some (.closing, rest)
  | '{' :: rest => some (.openingBrace, rest)
  | '}' :: rest => some (.closingBrace, rest)
  | ',' :: rest => some (.comma, rest)
  | ':' :: rest => some (.colon, rest)
  | '+' :: rest => some (.plus, rest)
  | '-' :: rest => some (.minus, rest)
  | '.' :: '.' :: '.' :: rest => some (.word "...".toList, rest)
  | '.' :: c :: _ => if c.isDigit then scanNumber text else none
  | c :: _ =>
    if c.isDigit then scanNumber text
    else if isQuote c then scanQuoted [] text
    else if startsWord c then
      let after := text.dropWhile continuesWord
      if after.head?.any isQuote then scanQuoted (text.takeWhile continuesWord) after
      else some (.word (text.takeWhile continuesWord), after)
    else none
  | [] => none

def isSeparator (c : Char) : Bool :=
  c == ' ' || c == '\t' || c == '\x0c'

/-- Whether the first line of a text begins with blanks.  A form feed starts the line anew, and a
line with nothing but a comment does not count. -/
def isIndented (text : List Char) : Bool :=
  let blanks := text.takeWhile isSeparator
  match blanks.getLast?, (text.dropWhile isSeparator).head? with
  | some blank, some c => blank != '\x0c' && c != '#' && c != '\n'
  | _, _ => false

def deepest : Nat := 200

/-- The depth of brackets after a token, if the token is allowed where `depth` of them are open. -/
def depthAfter (depth : Nat) : Token → Option Nat
  | .opening | .openingBrace => if depth < deepest then some (depth + 1) else none
  | .closing | .closingBrace => if depth = 0 then none else some (depth - 1)
  | _ => some depth

/-- The tokens of a text after those of a line of which `started` says whether there are any.  Each
step of `fuel` allows one more character or token to be passed. -/
def tokensAfter (fuel depth : Nat) (started : Bool) (text : List Char) : Option (List Token) :=
  match fuel, text with
  | _, [] => some []
  | 0, _ => none
  | fuel + 1, c :: rest =>
    if isSeparator c then tokensAfter fuel depth started rest
    else if c = '#' then tokensAfter fuel depth started (rest.dropWhile (· != '\n'))
    else if c = '\n' then
      if 0 < depth then tokensAfter fuel depth started rest
      else if isIndented rest then none
      else if started then (tokensAfter fuel depth false rest).map (.lineEnd :: ·)
      else tokensAfter fuel depth false rest
    else if c = '\\' then
      match rest with
      | '\n' :: after =>
        if after.isEmpty || (!started && isIndented after) then none
        else tokensAfter fuel depth started after
      | _ => none
    else do
      let (token, after) ← scanToken text
      let depth ← depthAfter depth token
      let tokens ← tokensAfter fuel depth true after
      return token :: tokens

def tokensOf (text : List Char) : Option (List Token) :=
  let text := Text.unifyNewlines text
  if '\x00' ∈ text then none else tokensAfter text.length 0 false text

end TextureCatalog.Terminal.Literal
