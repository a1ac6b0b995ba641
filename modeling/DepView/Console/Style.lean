import DepView.Decimal.Typed
import DepView.Text.Lower

/-!
Styles of text on a screen, as they are written in words: attributes, a color, a color behind `on`
for the background, and an address behind `link`. Styles that have the same effect are written in
the same way.
-/

namespace DepView.Console

inductive Attribute where
  | bold
  | dim
  | italic
  | underline
  | blink
  | fastBlink
  | reverse
  | conceal
  | strike
  | doubleUnderline
  | frame
  | encircle
  | overline
deriving DecidableEq, Repr

namespace Attribute

/-- The attributes in the order in which they are written. -/
def all : List Attribute :=
  [bold, dim, italic, underline, blink, fastBlink, reverse, conceal, strike, doubleUnderline, frame,
    encircle, overline]

/-- The names of an attribute. It is written by the first one. -/
def names : Attribute → String × List String
  | bold => ("bold", ["b"])
  | dim => ("dim", ["d"])
  | italic => ("italic", ["i"])
  | underline => ("underline", ["u"])
  | blink => ("blink", [])
  | fastBlink => ("blink2", [])
  | reverse => ("reverse", ["r"])
  | conceal => ("conceal", ["c"])
  | strike => ("strike", ["s"])
  | doubleUnderline => ("underline2", ["uu"])
  | frame => ("frame", [])
  | encircle => ("encircle", [])
  | overline => ("overline", ["o"])

def ofName? (name : Text) : Option Attribute :=
  all.find? fun a => (a.names.1 :: a.names.2).any (·.toList == name)

end Attribute

/-- Why words name no style. -/
inductive StyleFault where
  | unknown
  /-- A part of a color is no number at all. -/
  | noNumber
deriving DecidableEq, Repr

namespace Color

/-- The colors that have a name. -/
def names : List Text :=
  ["default black red green yellow blue magenta cyan white bright_black bright_red bright_green ",
    "bright_yellow bright_blue bright_magenta bright_cyan bright_white grey0 gray0 navy_blue ",
    "dark_blue blue3 blue1 dark_green deep_sky_blue4 dodger_blue3 dodger_blue2 green4 ",
    "spring_green4 turquoise4 deep_sky_blue3 dodger_blue1 green3 spring_green3 dark_cyan ",
    "light_sea_green deep_sky_blue2 deep_sky_blue1 spring_green2 cyan3 dark_turquoise turquoise2 ",
    "green1 spring_green1 medium_spring_green cyan2 cyan1 dark_red deep_pink4 purple4 purple3 ",
    "blue_violet orange4 grey37 gray37 medium_purple4 slate_blue3 royal_blue1 chartreuse4 ",
    "dark_sea_green4 pale_turquoise4 steel_blue steel_blue3 cornflower_blue chartreuse3 ",
    "cadet_blue sky_blue3 steel_blue1 pale_green3 sea_green3 aquamarine3 medium_turquoise ",
    "chartreuse2 sea_green2 sea_green1 aquamarine1 dark_slate_gray2 dark_magenta dark_violet ",
    "purple light_pink4 plum4 medium_purple3 slate_blue1 yellow4 wheat4 grey53 gray53 ",
    "light_slate_grey light_slate_gray medium_purple light_slate_blue dark_olive_green3 ",
    "dark_sea_green light_sky_blue3 sky_blue2 dark_sea_green3 dark_slate_gray3 sky_blue1 ",
    "chartreuse1 light_green pale_green1 dark_slate_gray1 red3 medium_violet_red magenta3 ",
    "dark_orange3 indian_red hot_pink3 medium_orchid3 medium_orchid medium_purple2 dark_goldenrod ",
    "light_salmon3 rosy_brown grey63 gray63 medium_purple1 gold3 dark_khaki navajo_white3 grey69 ",
    "gray69 light_steel_blue3 light_steel_blue yellow3 dark_sea_green2 light_cyan3 ",
    "light_sky_blue1 green_yellow dark_olive_green2 dark_sea_green1 pale_turquoise1 deep_pink3 ",
    "magenta2 hot_pink2 orchid medium_orchid1 orange3 light_pink3 pink3 plum3 violet ",
    "light_goldenrod3 tan misty_rose3 thistle3 plum2 khaki3 light_goldenrod2 light_yellow3 grey84 ",
    "gray84 light_steel_blue1 yellow2 dark_olive_green1 honeydew2 light_cyan1 red1 deep_pink2 ",
    "deep_pink1 magenta1 orange_red1 indian_red1 hot_pink dark_orange salmon1 light_coral ",
    "pale_violet_red1 orchid2 orchid1 orange1 sandy_brown light_salmon1 light_pink1 pink1 plum1 ",
    "gold1 navajo_white1 misty_rose1 thistle1 yellow1 light_goldenrod1 khaki1 wheat1 cornsilk1 ",
    "grey100 gray100 grey3 gray3 grey7 gray7 grey11 gray11 grey15 gray15 grey19 gray19 grey23 ",
    "gray23 grey27 gray27 grey30 gray30 grey35 gray35 grey39 gray39 grey42 gray42 grey46 gray46 ",
    "grey50 gray50 grey54 gray54 grey58 gray58 grey62 gray62 grey66 gray66 grey70 gray70 grey74 ",
    "gray74 grey78 gray78 grey82 gray82 grey85 gray85 grey89 gray89 grey93 gray93 "].flatMap fun line =>
    (Text.splitAt ' ' line.toList).dropLast

def isHex (c : Char) : Bool :=
  c.isDigit || ('a' ≤ c && c ≤ 'f')

/-- A number of the color table: one to three digits in brackets. -/
def isTabled (text : Text) : Bool :=
  match Text.before? [')'] text with
  | some digits =>
    0 < digits.length && digits.length ≤ 3 && digits.all Char.isDigit &&
      (Decimal.typedInt? digits).any (· ≤ 255)
  | none => false

/-- A part of a color, a number of at most 255. -/
def checkPart (text : Text) : Except StyleFault Bool :=
  match Decimal.typedInt? text with
  | some n => .ok (decide (n ≤ 255))
  | none => .error .noNumber

/-- Three parts with commas between them, and a bracket behind them. -/
def checkParts (text : Text) : Except StyleFault Unit :=
  match Text.before? [')'] text with
  | none => .error .unknown
  | some inner =>
    if inner.isEmpty || !inner.all (fun c => Text.isDecimal c || Text.isBlank c || c == ',') then
      .error .unknown
    else match Text.splitAt ',' inner with
      | [red, green, blue] => do
        let fits ← [red, green, blue].mapM checkPart
        if fits.all id then .ok () else .error .unknown
      | _ => .error .unknown

/-- The name of a color, as it is written: in small letters. -/
def read (word : Text) : Except StyleFault Text :=
  let name := Text.trim (Text.lower word)
  if names.contains name then .ok name
  else match name with
    | '#' :: digits =>
      if digits.length = 6 && digits.all isHex then .ok name else .error .unknown
    | _ =>
      match Text.after? "color(".toList name, Text.after? "rgb(".toList name with
      | some rest, _ => if isTabled rest then .ok name else .error .unknown
      | none, some rest => (checkParts rest).map fun _ => name
      | none, none => .error .unknown

end Color

structure Style where
  /-- The attributes that are set or taken away, the latest first. -/
  attributes : List (Attribute × Bool)
  color : Option Text
  background : Option Text
  link : Option Text
deriving DecidableEq, Repr

namespace Style

def plain : Style := ⟨[], none, none, none⟩

/-- What the words say in addition to a style. -/
def add (s : Style) : List Text → Except StyleFault Style
  | [] => .ok s
  | word :: rest =>
    if Text.lower word = "on".toList then
      match rest with
      | [] => .error .unknown
      | word :: rest => do add { s with background := some (← Color.read word) } rest
    else if Text.lower word = "not".toList then
      match rest with
      | [] => .error .unknown
      | word :: rest =>
        match Attribute.ofName? word with
        | some a => add { s with attributes := (a, false) :: s.attributes } rest
        | none => .error .unknown
    else if Text.lower word = "link".toList then
      match rest with
      | [] => .error .unknown
      | word :: rest => add { s with link := some word } rest
    else match Attribute.ofName? (Text.lower word) with
      | some a => add { s with attributes := (a, true) :: s.attributes } rest
      | none => do add { s with color := some (← Color.read (Text.lower word)) } rest

/-- The words of a text, without the blanks around them. -/
def words (text : Text) : List Text :=
  (Text.splitAt ' ' (text.map fun c => if Text.isBlank c then ' ' else c)).filter (!·.isEmpty)

def read (text : Text) : Except StyleFault Style :=
  if Text.trim text = "none".toList then .ok plain else plain.add (words text)

/-- The words for a style. -/
def toWords (s : Style) : List Text :=
  Attribute.all.filterMap (fun a => (s.attributes.lookup a).map fun on =>
    if on then a.names.1.toList else "not ".toList ++ a.names.1.toList) ++
  s.color.toList ++
  (s.background.map fun color => "on ".toList ++ color).toList ++
  (s.link.map fun link => "link ".toList ++ link).toList

/-- A style in the words in which it is always written. Words that name no style are kept, in small
letters. -/
def normal (text : Text) : Except StyleFault Text :=
  match read text with
  | .ok s => .ok (if s = plain then "none".toList else Text.join [' '] s.toWords)
  | .error .unknown => .ok (Text.lower (Text.trim text))
  | .error .noNumber => .error .noNumber

end Style

end DepView.Console
