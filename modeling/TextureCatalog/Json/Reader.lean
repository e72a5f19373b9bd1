import TextureCatalog.Document
import TextureCatalog.Text.Newline
import TextureCatalog.Text.Numeral

/-!
# Reading JSON

JSON texts are read from left to right, and the first fault ends the reading.  A fault is placed by
how much of the text remained when it was met.  Beyond the standard, `NaN`, `Infinity` and
`-Infinity` are numbers.
-/

namespace TextureCatalog.Json

inductive Problem
  | expectedValue
  | expectedPropertyName
  | expectedColon
  | expectedComma
  | extraData
  | unterminatedString
  | controlCharacter
  | badEscape
  | badUnicodeEscape
  | byteOrderMark
  deriving DecidableEq, Repr

def Problem.message : Problem → String
  | .expectedValue => "Expecting value"
  | .expectedPropertyName => "Expecting property name enclosed in double quotes"
  | .expectedColon => "Expecting ':' delimiter"
  | .expectedComma => "Expecting ',' delimiter"
  | .extraData => "Extra data"
  | .unterminatedString => "Unterminated string starting at"
  | .controlCharacter => "Invalid control character at"
  | .badEscape => "Invalid \\escape"
  | .badUnicodeEscape => "Invalid \\uXXXX escape"
  | .byteOrderMark => "Unexpected UTF-8 BOM (decode using utf-8-sig)"

/-- Why a text is not read: it is not JSON, which shows where `remaining` characters are left, or it
holds an integer with more digits than are ever read. -/
inductive Fault
  | malformed (problem : Problem) (remaining : Nat)
  | numeralTooLong
  deriving DecidableEq, Repr

/-- What was read from the beginning of a text, and the rest of the text. -/
abbrev Reading (α : Type) := Except Fault (α × List Char)

def Reading.map {α β : Type} (change : α → β) : Reading α → Reading β
  | .error fault => .error fault
  | .ok (value, rest) => .ok (change value, rest)

/-- The white space between tokens: blanks, tabs and line ends. -/
def isSpace (c : Char) : Bool :=
  c == ' ' || c == '\t' || c == '\n' || c == '\r'

def skipSpace (text : List Char) : List Char :=
  text.dropWhile isSpace

/-- The rest of a text after a word that it begins with. -/
def afterWord? (word text : List Char) : Option (List Char) :=
  if word.isPrefixOf text then some (text.drop word.length) else none

/-! ## Strings -/

def escapedChar? : Char → Option Char
  | '"' => some '"'
  | '\\' => some '\\'
  | '/' => some '/'
  | 'b' => some '\x08'
  | 'f' => some '\x0c'
  | 'n' => some '\n'
  | 'r' => some '\r'
  | 't' => some '\t'
  | _ => none

def isHighSurrogate (code : Nat) : Bool := 0xD800 ≤ code && code < 0xDC00

def isLowSurrogate (code : Nat) : Bool := 0xDC00 ≤ code && code < 0xE000

/-- The character of a code that stands alone.  A surrogate without its partner is no character, and
texts are taken to have none; the replacement character takes its place. -/
def loneChar (code : Nat) : Char :=
  if isHighSurrogate code || isLowSurrogate code then '\uFFFD' else Char.ofNat code

def pairChar (high low : Nat) : Char :=
  Char.ofNat (0x10000 + (high - 0xD800) * 0x400 + (low - 0xDC00))

/-- The characters of a sequence of codes, in which a high and a low surrogate in a row make one
character. -/
def charsOfCodes : List Nat → List Char
  | [] => []
  | [code] => [loneChar code]
  | code :: next :: rest =>
    if isHighSurrogate code && isLowSurrogate next then pairChar code next :: charsOfCodes rest
    else loneChar code :: charsOfCodes (next :: rest)

/-- Reads a string after its opening quotation mark, as the codes of its characters and escapes.
`whole` is the text from that mark on. -/
def readCodes (whole : List Char) : List Char → Reading (List Nat)
  | [] => .error (.malformed .unterminatedString whole.length)
  | '"' :: rest => .ok ([], rest)
  | '\\' :: rest =>
    match rest with
    | [] => .error (.malformed .unterminatedString whole.length)
    | 'u' :: digits =>
      match digits with
      | a :: b :: c :: d :: tail =>
        match Text.hexValue? [a, b, c, d] with
        | none => .error (.malformed .badUnicodeEscape (digits.length + 1))
        | some code =>
          if tail.isEmpty then .error (.malformed .badUnicodeEscape (digits.length + 1))
          else (readCodes whole tail).map (code :: ·)
      | _ => .error (.malformed .badUnicodeEscape (digits.length + 1))
    | letter :: tail =>
      match escapedChar? letter with
      | none => .error (.malformed .badEscape (tail.length + 2))
      | some c => (readCodes whole tail).map (c.toNat :: ·)
  | c :: rest =>
    if c.toNat < 0x20 then .error (.malformed .controlCharacter (rest.length + 1))
    else (readCodes whole rest).map (c.toNat :: ·)

/-- Reads a string after its opening quotation mark; `whole` is the text from that mark on. -/
def readString (whole text : List Char) : Reading String :=
  (readCodes whole text).map fun codes => String.ofList (charsOfCodes codes)

/-! ## Numbers -/

def spanDigits (text : List Char) : List Char × List Char :=
  (text.takeWhile Char.isDigit, text.dropWhile Char.isDigit)

/-- The digits of an integer: a zero alone, or digits that begin with another one. -/
def integerDigits? : List Char → Option (List Char × List Char)
  | [] => none
  | c :: rest =>
    if c = '0' then some (['0'], rest)
    else if c.isDigit then some (spanDigits (c :: rest))
    else none

def fractionPart : List Char → List Char × List Char
  | '.' :: rest =>
    match spanDigits rest with
    | ([], _) => ([], '.' :: rest)
    | (digits, rest) => ('.' :: digits, rest)
  | text => ([], text)

def exponentSign : List Char → List Char × List Char
  | '+' :: rest => (['+'], rest)
  | '-' :: rest => (['-'], rest)
  | text => ([], text)

def exponentPart : List Char → List Char × List Char
  | [] => ([], [])
  | c :: rest =>
    if c = 'e' ∨ c = 'E' then
      let (sign, afterSign) := exponentSign rest
      match spanDigits afterSign with
      | ([], _) => ([], c :: rest)
      | (digits, rest) => (c :: (sign ++ digits), rest)
    else ([], c :: rest)

/-- Reads a number: an integer unless it has a fraction or an exponent. -/
def readNumber (text : List Char) : Reading Document :=
  let (negative, unsigned) := match text with
    | '-' :: rest => (true, rest)
    | _ => (false, text)
  match integerDigits? unsigned with
  | none => .error (.malformed .expectedValue text.length)
  | some (digits, rest) =>
    let (fraction, rest) := fractionPart rest
    let (exponent, rest) := exponentPart rest
    if fraction.isEmpty && exponent.isEmpty then
      if digits.length ≤ Text.numeralLimit then
        .ok (.integer (Text.signedValue negative digits), rest)
      else .error .numeralTooLong
    else
      .ok (.decimal (String.ofList
        ((if negative then ['-'] else []) ++ digits ++ fraction ++ exponent)), rest)

def wordValues : List (String × Document) :=
  [("null", .null), ("true", .boolean true), ("false", .boolean false), ("NaN", .decimal "NaN"),
   ("Infinity", .decimal "Infinity"), ("-Infinity", .decimal "-Infinity")]

def readScalar (text : List Char) : Reading Document :=
  let word := wordValues.findSome? fun (word, value) =>
    (afterWord? word.toList text).map fun rest => (value, rest)
  match word with
  | some reading => .ok reading
  | none => readNumber text

/-! ## Values -/

mutual

/-- Reads a value.  Each step of `fuel` allows one more value, list or table to be entered.  Values
are taken not to be nested so deeply that a reader that calls itself for each level runs out of
stack. -/
def readValue : Nat → List Char → Reading Document
  | 0, text => .error (.malformed .expectedValue text.length)
  | fuel + 1, text =>
    match text with
    | '"' :: rest =>
      Reading.map Document.text (readString text rest)
    | '[' :: rest =>
      match skipSpace rest with
      | ']' :: rest => .ok (.list [], rest)
      | rest => Reading.map Document.list (readItems fuel rest)
    | '{' :: rest =>
      match skipSpace rest with
      | '}' :: rest => .ok (.table [], rest)
      | rest => Reading.map Document.table (readMembers fuel rest)
    | _ => readScalar text

/-- Reads the items of a list, of which there is at least one, and its closing bracket. -/
def readItems : Nat → List Char → Except Fault (List Document × List Char)
  | 0, text => .error (.malformed .expectedValue text.length)
  | fuel + 1, text => do
    let (item, rest) ← readValue fuel text
    match skipSpace rest with
    | ']' :: rest => .ok ([item], rest)
    | ',' :: rest =>
      let (items, rest) ← readItems fuel (skipSpace rest)
      .ok (item :: items, rest)
    | rest => .error (.malformed .expectedComma rest.length)

/-- Reads the members of a table, of which there is at least one, and its closing brace. -/
def readMembers : Nat → List Char → Except Fault (Document.Members × List Char)
  | 0, text => .error (.malformed .expectedValue text.length)
  | fuel + 1, text =>
    match text with
    | '"' :: rest => do
      let (key, rest) ← readString text rest
      match skipSpace rest with
      | ':' :: rest =>
        let (value, rest) ← readValue fuel (skipSpace rest)
        match skipSpace rest with
        | '}' :: rest => .ok ([(key, value)], rest)
        | ',' :: rest =>
          let (members, rest) ← readMembers fuel (skipSpace rest)
          .ok ((key, value) :: members, rest)
        | rest => .error (.malformed .expectedComma rest.length)
      | rest => .error (.malformed .expectedColon rest.length)
    | _ => .error (.malformed .expectedPropertyName text.length)

end

/-- Reads a whole text as one value.  The fuel is enough, because a value takes at least one
character for every two steps. -/
def read (text : List Char) : Except Fault Document :=
  if text.head? = some '\uFEFF' then .error (.malformed .byteOrderMark text.length)
  else do
    let (value, rest) ← readValue (2 * text.length + 2) (skipSpace text)
    match skipSpace rest with
    | [] => .ok value
    | rest => .error (.malformed .extraData rest.length)

/-- A problem with its place in the text: line and column, counted from one, and the number of
characters before it. -/
structure Placed where
  problem : Problem
  line : Nat
  column : Nat
  offset : Nat
  deriving DecidableEq, Repr

/-- The place of a problem at which `remaining` characters of the text are left. -/
def Placed.of (text : List Char) (problem : Problem) (remaining : Nat) : Placed :=
  let offset := text.length - remaining
  let (line, column) := Text.lineAndColumn text offset
  ⟨problem, line, column, offset⟩

def Placed.message (placed : Placed) : String :=
  s!"{placed.problem.message}: line {placed.line} column {placed.column} (char {placed.offset})"

end TextureCatalog.Json
