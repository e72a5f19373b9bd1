import TextureCatalog.Text.Blank
import TextureCatalog.Text.CodeRange

/-!
# Numerals

Decimal and hexadecimal numerals as texts.  Whole numbers are unbounded, but a decimal numeral of
more than 4300 digits is never turned into a number, nor a number into such a numeral.
-/

namespace TextureCatalog.Text

/-- The most digits, leading zeros counted, that a decimal numeral may have to be read. -/
def numeralLimit : Nat := 4300

def decimal (n : Nat) : List Char :=
  Nat.toDigits 10 n

def decimalInt : Int → List Char
  | .ofNat n => decimal n
  | .negSucc n => '-' :: decimal (n + 1)

def decimalText (n : Int) : String :=
  String.ofList (decimalInt n)

def decimalValue (digits : List Char) : Nat :=
  Nat.ofDigitChars 10 digits 0

@[simp]
theorem decimalValue_decimal (n : Nat) : decimalValue (decimal n) = n :=
  Nat.ofDigitChars_toDigits (by omega) (by omega)

/-- Whether the numeral of a number is short enough to be read again; a longer one is never
written. -/
def isWritable (n : Int) : Bool :=
  (decimal n.natAbs).length ≤ numeralLimit

/-- The decimal numeral of a whole number, unless it is too long to be written. -/
def decimalText? (n : Int) : Option String :=
  if isWritable n then some (decimalText n) else none

def signedValue (negative : Bool) (digits : List Char) : Int :=
  if negative then -(decimalValue digits : Int) else decimalValue digits

/-- The code points of the zeros of the decimal digits of all scripts; the other nine digits of a
script follow its zero. -/
def digitZeros : List Nat :=
  [0x30, 0x660, 0x6F0, 0x7C0, 0x966, 0x9E6, 0xA66, 0xAE6, 0xB66, 0xBE6, 0xC66, 0xCE6, 0xD66, 0xDE6,
   0xE50, 0xED0, 0xF20, 0x1040, 0x1090, 0x17E0, 0x1810, 0x1946, 0x19D0, 0x1A80, 0x1A90, 0x1B50,
   0x1BB0, 0x1C40, 0x1C50, 0xA620, 0xA8D0, 0xA900, 0xA9D0, 0xA9F0, 0xAA50, 0xABF0, 0xFF10, 0x104A0,
   0x10D30, 0x11066, 0x110F0, 0x11136, 0x111D0, 0x112F0, 0x11450, 0x114D0, 0x11650, 0x116C0,
   0x11730, 0x118E0, 0x11950, 0x11C50, 0x11D50, 0x11DA0, 0x16A60, 0x16AC0, 0x16B50, 0x1D7CE,
   0x1D7D8, 0x1D7E2, 0x1D7EC, 0x1D7F6, 0x1E140, 0x1E2F0, 0x1E950, 0x1FBF0]

/-- The ASCII digit of the same value, for a decimal digit of any script. -/
def asciiDigit? (c : Char) : Option Char :=
  (digitZeros.find? fun start => start ≤ c.toNat && c.toNat < start + 10).map fun start =>
    Char.ofNat (0x30 + (c.toNat - start))

/-- Characters that show a digit but are no decimal digits: superscripts, subscripts, digits in
circles and the like. -/
def shownDigitRanges : List CodeRange :=
  [(0xB2, 0xB3), (0xB9, 0xB9), (0x1369, 0x1371), (0x19DA, 0x19DA), (0x2070, 0x2070),
   (0x2074, 0x2079), (0x2080, 0x2089), (0x2460, 0x2468), (0x2474, 0x247C), (0x2488, 0x2490),
   (0x24EA, 0x24EA), (0x24F5, 0x24FD), (0x24FF, 0x24FF), (0x2776, 0x277E), (0x2780, 0x2788),
   (0x278A, 0x2792), (0x10A40, 0x10A43), (0x10E60, 0x10E68), (0x11052, 0x1105A),
   (0x1F100, 0x1F10A)]

def isDigits (text : List Char) : Bool :=
  !text.isEmpty && text.all fun c => (asciiDigit? c).isSome || inRanges shownDigitRanges c.toNat

/-- Whether a text consists of digits but no number can be read from it. -/
def isUnreadableNumeral (text : List Char) : Bool :=
  isDigits text && (text.any (fun c => (asciiDigit? c).isNone) || numeralLimit < text.length)

/-- The digits of a numeral in which a single underscore may stand between two digits. -/
def groupedDigits? : List Char → Option (List Char)
  | [] => none
  | [c] => (asciiDigit? c).map fun digit => [digit]
  | c :: '_' :: rest => do
      let digit ← asciiDigit? c
      let digits ← groupedDigits? rest
      return digit :: digits
  | c :: rest => do
      let digit ← asciiDigit? c
      let digits ← groupedDigits? rest
      return digit :: digits

/-- Whether a character can stand around a numeral: white space other than the separators U+001C to
U+001F. -/
def isNumeralSpace (c : Char) : Bool :=
  isBlank c && !(0x1C ≤ c.toNat && c.toNat ≤ 0x1F)

/-- The whole number that someone typed: white space around it, a sign, underscores between the
digits and the digits of any script are accepted. -/
def typedInteger? (text : List Char) : Option Int := do
  let inner := ((text.dropWhile isNumeralSpace).reverse.dropWhile isNumeralSpace).reverse
  let (negative, unsigned) := match inner with
    | '-' :: rest => (true, rest)
    | '+' :: rest => (false, rest)
    | rest => (false, rest)
  let digits ← groupedDigits? unsigned
  guard (digits.length ≤ numeralLimit)
  return signedValue negative digits

def hexDigitValue? (c : Char) : Option Nat :=
  if '0' ≤ c ∧ c ≤ '9' then some (c.toNat - 0x30)
  else if 'a' ≤ c ∧ c ≤ 'f' then some (c.toNat - 0x61 + 10)
  else if 'A' ≤ c ∧ c ≤ 'F' then some (c.toNat - 0x41 + 10)
  else none

/-- The number that a run of hexadecimal digits stands for, if all characters are such digits. -/
def hexValue? (digits : List Char) : Option Nat :=
  digits.foldlM (fun value c => (hexDigitValue? c).map (16 * value + ·)) 0

/-- The hexadecimal numeral of a number in lower case, filled with zeros up to a width. -/
def hexPadded (width n : Nat) : List Char :=
  let digits := Nat.toDigits 16 n
  List.replicate (width - digits.length) '0' ++ digits

end TextureCatalog.Text
