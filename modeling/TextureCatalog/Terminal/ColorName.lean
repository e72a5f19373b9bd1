import TextureCatalog.Text.Numeral
import TextureCatalog.Text.Substring

/-!
# Color names

The names under which terminal colors are known in style tags.  Besides the names of the palette
there are six hexadecimal digits after a number sign, palette numbers and red, green and blue parts.
A part is a number of any length, but one that is missing or too long makes the whole name
unreadable.
-/

namespace TextureCatalog.Terminal

/-- The colors of the palette that have names of their own, and the color that the terminal uses
anyway. -/
def paletteNames : List String :=
  ["default", "black", "red", "green", "yellow", "blue", "magenta", "cyan", "white", "bright_black",
   "bright_red", "bright_green", "bright_yellow", "bright_blue", "bright_magenta", "bright_cyan",
   "bright_white", "navy_blue", "dark_blue", "blue3", "blue1", "dark_green", "deep_sky_blue4",
   "dodger_blue3", "dodger_blue2", "green4", "spring_green4", "turquoise4", "deep_sky_blue3",
   "dodger_blue1", "green3", "spring_green3", "dark_cyan", "light_sea_green", "deep_sky_blue2",
   "deep_sky_blue1", "spring_green2", "cyan3", "dark_turquoise", "turquoise2", "green1",
   "spring_green1", "medium_spring_green", "cyan2", "cyan1", "dark_red", "deep_pink4", "purple4",
   "purple3", "blue_violet", "orange4", "medium_purple4", "slate_blue3", "royal_blue1",
   "chartreuse4", "dark_sea_green4", "pale_turquoise4", "steel_blue", "steel_blue3",
   "cornflower_blue", "chartreuse3", "cadet_blue", "sky_blue3", "steel_blue1", "pale_green3",
   "sea_green3", "aquamarine3", "medium_turquoise", "chartreuse2", "sea_green2", "sea_green1",
   "aquamarine1", "dark_slate_gray2", "dark_magenta", "dark_violet", "purple", "light_pink4",
   "plum4", "medium_purple3", "slate_blue1", "yellow4", "wheat4", "light_slate_grey",
   "light_slate_gray", "medium_purple", "light_slate_blue", "dark_olive_green3", "dark_sea_green",
   "light_sky_blue3", "sky_blue2", "dark_sea_green3", "dark_slate_gray3", "sky_blue1",
   "chartreuse1", "light_green", "pale_green1", "dark_slate_gray1", "red3", "medium_violet_red",
   "magenta3", "dark_orange3", "indian_red", "hot_pink3", "medium_orchid3", "medium_orchid",
   "medium_purple2", "dark_goldenrod", "light_salmon3", "rosy_brown", "medium_purple1", "gold3",
   "dark_khaki", "navajo_white3", "light_steel_blue3", "light_steel_blue", "yellow3",
   "dark_sea_green2", "light_cyan3", "light_sky_blue1", "green_yellow", "dark_olive_green2",
   "dark_sea_green1", "pale_turquoise1", "deep_pink3", "magenta2", "hot_pink2", "orchid",
   "medium_orchid1", "orange3", "light_pink3", "pink3", "plum3", "violet", "light_goldenrod3",
   "tan", "misty_rose3", "thistle3", "plum2", "khaki3", "light_goldenrod2", "light_yellow3",
   "light_steel_blue1", "yellow2", "dark_olive_green1", "honeydew2", "light_cyan1", "red1",
   "deep_pink2", "deep_pink1", "magenta1", "orange_red1", "indian_red1", "hot_pink", "dark_orange",
   "salmon1", "light_coral", "pale_violet_red1", "orchid2", "orchid1", "orange1", "sandy_brown",
   "light_salmon1", "light_pink1", "pink1", "plum1", "gold1", "navajo_white1", "misty_rose1",
   "thistle1", "yellow1", "light_goldenrod1", "khaki1", "wheat1", "cornsilk1"]

/-- The shades of grey that have names, which end in a percentage and are spelled in two ways. -/
def greyLevels : List Nat :=
  [0, 37, 53, 63, 69, 84, 100, 3, 7, 11, 15, 19, 23, 27, 30, 35, 39, 42, 46, 50, 54, 58, 62, 66, 70,
   74, 78, 82, 85, 89, 93]

def greyNames : List String :=
  greyLevels.flatMap fun level => [s!"grey{level}", s!"gray{level}"]

/-- The text between an opening such as `rgb(` and a closing parenthesis. -/
def argumentOf? (opening : String) (word : List Char) : Option (List Char) :=
  let rest := word.drop opening.length
  if opening.toList.isPrefixOf word && rest.getLast? == some ')' then some rest.dropLast else none

/-- Whether one to three decimal digits stand for a number up to 255. -/
def isPaletteNumber (digits : List Char) : Bool :=
  !digits.isEmpty && digits.length ≤ 3 && digits.all (·.isDigit) && Text.decimalValue digits ≤ 255

/-- Whether a word in lower case is the name of a color of the palette or a hexadecimal color. -/
def isPlainColor (word : List Char) : Bool :=
  let name := String.ofList word
  paletteNames.contains name || greyNames.contains name ||
    (match word with
      | '#' :: digits => digits.length == 6 && digits.all fun c => (Text.hexDigitValue? c).isSome
      | _ => false) ||
    ((argumentOf? "color(" word).map isPaletteNumber).getD false

/-- The digits of the red, green and blue parts in `rgb(…)`; they can be of any script. -/
def colorParts? (word : List Char) : Option (List (List Char)) := do
  let inner ← argumentOf? "rgb(" word
  let digits ← inner.mapM fun c => if c = ',' then some c else Text.asciiDigit? c
  let parts := Text.cutAt ',' digits
  if parts.length = 3 then some parts else none

/-- A word with red, green and blue parts, one of which is empty or has too many digits to be
read. -/
structure UnreadableColor where
  word : String
  deriving DecidableEq, Repr

def isColorName (word : List Char) : Except UnreadableColor Bool :=
  if isPlainColor word then .ok true
  else
    match colorParts? word with
    | none => .ok false
    | some parts =>
      if parts.any fun part => part.isEmpty || Text.numeralLimit < part.length then
        .error ⟨String.ofList word⟩
      else .ok (parts.all fun part => Text.decimalValue part ≤ 255)

end TextureCatalog.Terminal
