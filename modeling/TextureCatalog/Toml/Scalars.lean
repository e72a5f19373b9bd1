import TextureCatalog.Document
import TextureCatalog.Toml.Fault

/-!
# TOML numbers, dates and times

Each reader takes as much of the text as belongs to a value of its kind, and gives `none` if the
text does not begin with one.
-/

namespace TextureCatalog.Toml

/-! ## Numbers -/

/-- A run of digits in which single underscores may stand between two digits, without the
underscores. -/
def spanGrouped (isDigit : Char → Bool) : List Char → List Char × List Char
  | '_' :: c :: rest =>
    if isDigit c then
      let (digits, rest) := spanGrouped isDigit rest
      (c :: digits, rest)
    else ([], '_' :: c :: rest)
  | c :: rest =>
    if isDigit c then
      let (digits, rest) := spanGrouped isDigit rest
      (c :: digits, rest)
    else ([], c :: rest)
  | [] => ([], [])

/-- A run of digits as before, which begins with a digit. -/
def groupedDigits? (isDigit : Char → Bool) : List Char → Option (List Char × List Char)
  | [] => none
  | c :: rest => if isDigit c then some (spanGrouped isDigit (c :: rest)) else none

/-- The value of digits in a base given by the value of each digit. -/
def valueInBase (base : Nat) (digits : List Char) : Nat :=
  digits.foldl (fun value c => base * value + (Text.hexDigitValue? c).getD 0) 0

def isHexDigit (c : Char) : Bool := (Text.hexDigitValue? c).isSome

def isOctalDigit (c : Char) : Bool := '0' ≤ c && c ≤ '7'

def isBinaryDigit (c : Char) : Bool := c == '0' || c == '1'

def basedNumber? (base : Nat) (isDigit : Char → Bool) (text : List Char) :
    Option (Document × List Char) :=
  (groupedDigits? isDigit text).map fun (digits, rest) =>
    (.integer (valueInBase base digits), rest)

def prefixedNumber? : List Char → Option (Document × List Char)
  | '0' :: 'x' :: rest => basedNumber? 16 isHexDigit rest
  | '0' :: 'o' :: rest => basedNumber? 8 isOctalDigit rest
  | '0' :: 'b' :: rest => basedNumber? 2 isBinaryDigit rest
  | _ => none

def takeSign : List Char → List Char × List Char
  | '+' :: rest => (['+'], rest)
  | '-' :: rest => (['-'], rest)
  | text => ([], text)

def takeFraction : List Char → List Char × List Char
  | '.' :: rest =>
    match groupedDigits? Char.isDigit rest with
    | some (digits, rest) => ('.' :: digits, rest)
    | none => ([], '.' :: rest)
  | text => ([], text)

def takeExponent : List Char → List Char × List Char
  | [] => ([], [])
  | c :: rest =>
    if c = 'e' ∨ c = 'E' then
      let (sign, afterSign) := takeSign rest
      match groupedDigits? Char.isDigit afterSign with
      | some (digits, rest) => (c :: (sign ++ digits), rest)
      | none => ([], c :: rest)
    else ([], c :: rest)

/-- The digits before the point: a zero alone, or digits that begin with another one. -/
def wholePart? : List Char → Option (List Char × List Char)
  | [] => none
  | c :: rest =>
    if c = '0' then some (['0'], rest)
    else if c.isDigit then some (spanGrouped Char.isDigit (c :: rest))
    else none

/-- A decimal number: an integer unless it has a fraction or an exponent. -/
def readDecimal (text : List Char) : Option (Reading Document) :=
  let (sign, unsigned) := takeSign text
  (wholePart? unsigned).map fun (digits, rest) =>
    let (fraction, rest) := takeFraction rest
    let (exponent, rest) := takeExponent rest
    if fraction.isEmpty && exponent.isEmpty then
      if digits.length ≤ Text.numeralLimit then
        .ok (.integer (Text.signedValue (sign == ['-']) digits), rest)
      else .error (.numeralTooLong digits.length)
    else .ok (.decimal (String.ofList (sign ++ digits ++ fraction ++ exponent)), rest)

def readNumber (text : List Char) : Option (Reading Document) :=
  match prefixedNumber? text with
  | some reading => some (.ok reading)
  | none => readDecimal text

/-- The words for numbers that are infinite or no numbers. -/
def specialNumbers : List String :=
  ["inf", "nan", "-inf", "+inf", "-nan", "+nan"]

def afterWord? (word : String) (text : List Char) : Option (List Char) :=
  if word.toList.isPrefixOf text then some (text.drop word.length) else none

def readSpecial (text : List Char) : Option (Document × List Char) :=
  specialNumbers.findSome? fun word =>
    (afterWord? word text).map fun rest => (.decimal word, rest)

/-! ## Dates and times -/

def twoDigits? (a b : Char) : Option Nat :=
  if a.isDigit && b.isDigit then some (Text.decimalValue [a, b]) else none

/-- The fraction of a second, or nothing. -/
def takeSecondFraction : List Char → List Char × List Char
  | '.' :: rest =>
    match rest.takeWhile Char.isDigit with
    | [] => ([], '.' :: rest)
    | digits => ('.' :: digits, rest.dropWhile Char.isDigit)
  | text => ([], text)

/-- A time of day, with or without a fraction of a second. -/
def takeTime? : List Char → Option (List Char × List Char)
  | a :: b :: ':' :: c :: d :: ':' :: e :: f :: rest => do
    let hour ← twoDigits? a b
    let minute ← twoDigits? c d
    let second ← twoDigits? e f
    guard (hour < 24 ∧ minute < 60 ∧ second < 60)
    let (fraction, rest) := takeSecondFraction rest
    return ([a, b, ':', c, d, ':', e, f] ++ fraction, rest)
  | _ => none

def takeOffset : List Char → List Char × List Char
  | 'Z' :: rest => (['Z'], rest)
  | 'z' :: rest => (['z'], rest)
  | sign :: a :: b :: ':' :: c :: d :: rest =>
    let offset : Option Unit := do
      let hour ← twoDigits? a b
      let minute ← twoDigits? c d
      guard ((sign = '+' ∨ sign = '-') ∧ hour < 24 ∧ minute < 60)
    if offset.isSome then ([sign, a, b, ':', c, d], rest)
    else ([], sign :: a :: b :: ':' :: c :: d :: rest)
  | text => ([], text)

def isLeapYear (year : Nat) : Bool :=
  year % 4 == 0 && (year % 100 != 0 || year % 400 == 0)

def daysInMonth (year month : Nat) : Nat :=
  match month with
  | 2 => if isLeapYear year then 29 else 28
  | 4 | 6 | 9 | 11 => 30
  | _ => 31

/-- The year, month and day of a date, as they are written. -/
def takeDate? : List Char → Option ((Nat × Nat × Nat) × List Char × List Char)
  | a :: b :: c :: d :: '-' :: e :: f :: '-' :: g :: h :: rest => do
    let century ← twoDigits? a b
    let year ← twoDigits? c d
    let month ← twoDigits? e f
    let day ← twoDigits? g h
    guard (1 ≤ month ∧ month ≤ 12 ∧ 1 ≤ day ∧ day ≤ 31)
    return ((100 * century + year, month, day), [a, b, c, d, '-', e, f, '-', g, h], rest)
  | _ => none

/-- The time after a date: it follows a letter `T` or a blank. -/
def takeTimeOfDate? : List Char → Option (List Char × List Char)
  | c :: rest =>
    if c = 'T' ∨ c = 't' ∨ c = ' ' then
      (takeTime? rest).map fun (time, rest) =>
        let (offset, rest) := takeOffset rest
        (c :: (time ++ offset), rest)
    else none
  | [] => none

/-- A date, or a date with a time.  The date must exist. -/
def readDate (text : List Char) : Option (Reading Document) :=
  (takeDate? text).map fun ((year, month, day), date, rest) =>
    if year = 0 ∨ daysInMonth year month < day then .error (.malformed .date text.length)
    else
      match takeTimeOfDate? rest with
      | some (time, rest) => .ok (.moment .dateTime (String.ofList (date ++ time)), rest)
      | none => .ok (.moment .date (String.ofList date), rest)

def readTime (text : List Char) : Option (Document × List Char) :=
  (takeTime? text).map fun (time, rest) => (.moment .time (String.ofList time), rest)

end TextureCatalog.Toml
