import SchemaCompiler.Text.Case
import SchemaCompiler.Text.Lines

/-!
# Styles

How a style of a terminal is named: attributes, a colour, a background and a link, in words. Names
with the same effect have one normal form; a name that is no style is only brought to lower case.
-/

set_option autoImplicit false

namespace SchemaCompiler

namespace CommandLine

/-- A style: the attributes that it sets or resets, and the rest as far as it is stated. -/
structure Style where
  attributes : List (String × Bool)
  color : Option String
  background : Option String
  link : Option String
  deriving DecidableEq, Inhabited, Repr

namespace Style

/-- The attributes in the order in which they are written, each with its short name if it has
one. -/
def attributeNames : List (String × List String) :=
  [("bold", ["b"]), ("dim", ["d"]), ("italic", ["i"]), ("underline", ["u"]), ("blink", []),
   ("blink2", []), ("reverse", ["r"]), ("conceal", ["c"]), ("strike", ["s"]),
   ("underline2", ["uu"]), ("frame", []), ("encircle", []), ("overline", ["o"])]

/-- The attribute that a word names. -/
def attribute? (word : String) : Option String :=
  (attributeNames.find? fun a => a.1 == word || a.2.contains word).map (·.1)

/-! ## Colours -/

/-- The names of colours, with blanks between any two. -/
def colorNames : String :=
  "aquamarine1 aquamarine3 black blue blue1 blue3 blue_violet bright_black bright_blue bright_cyan
  bright_green bright_magenta bright_red bright_white bright_yellow cadet_blue chartreuse1
  chartreuse2 chartreuse3 chartreuse4 cornflower_blue cornsilk1 cyan cyan1 cyan2 cyan3 dark_blue
  dark_cyan dark_goldenrod dark_green dark_khaki dark_magenta dark_olive_green1 dark_olive_green2
  dark_olive_green3 dark_orange dark_orange3 dark_red dark_sea_green dark_sea_green1
  dark_sea_green2 dark_sea_green3 dark_sea_green4 dark_slate_gray1 dark_slate_gray2
  dark_slate_gray3 dark_turquoise dark_violet deep_pink1 deep_pink2 deep_pink3 deep_pink4
  deep_sky_blue1 deep_sky_blue2 deep_sky_blue3 deep_sky_blue4 default dodger_blue1 dodger_blue2
  dodger_blue3 gold1 gold3 gray0 gray100 gray11 gray15 gray19 gray23 gray27 gray3 gray30 gray35
  gray37 gray39 gray42 gray46 gray50 gray53 gray54 gray58 gray62 gray63 gray66 gray69 gray7
  gray70 gray74 gray78 gray82 gray84 gray85 gray89 gray93 green green1 green3 green4 green_yellow
  grey0 grey100 grey11 grey15 grey19 grey23 grey27 grey3 grey30 grey35 grey37 grey39 grey42
  grey46 grey50 grey53 grey54 grey58 grey62 grey63 grey66 grey69 grey7 grey70 grey74 grey78
  grey82 grey84 grey85 grey89 grey93 honeydew2 hot_pink hot_pink2 hot_pink3 indian_red
  indian_red1 khaki1 khaki3 light_coral light_cyan1 light_cyan3 light_goldenrod1 light_goldenrod2
  light_goldenrod3 light_green light_pink1 light_pink3 light_pink4 light_salmon1 light_salmon3
  light_sea_green light_sky_blue1 light_sky_blue3 light_slate_blue light_slate_gray
  light_slate_grey light_steel_blue light_steel_blue1 light_steel_blue3 light_yellow3 magenta
  magenta1 magenta2 magenta3 medium_orchid medium_orchid1 medium_orchid3 medium_purple
  medium_purple1 medium_purple2 medium_purple3 medium_purple4 medium_spring_green
  medium_turquoise medium_violet_red misty_rose1 misty_rose3 navajo_white1 navajo_white3
  navy_blue orange1 orange3 orange4 orange_red1 orchid orchid1 orchid2 pale_green1 pale_green3
  pale_turquoise1 pale_turquoise4 pale_violet_red1 pink1 pink3 plum1 plum2 plum3 plum4 purple
  purple3 purple4 red red1 red3 rosy_brown royal_blue1 salmon1 sandy_brown sea_green1 sea_green2
  sea_green3 sky_blue1 sky_blue2 sky_blue3 slate_blue1 slate_blue3 spring_green1 spring_green2
  spring_green3 spring_green4 steel_blue steel_blue1 steel_blue3 tan thistle1 thistle3 turquoise2
  turquoise4 violet wheat1 wheat4 white yellow yellow1 yellow2 yellow3 yellow4"

/-- The text of a word between parentheses after a name. -/
def argument? (name : String) (word : List Char) : Option (List Char) :=
  let opening := name.toList ++ ['(']
  if Text.startsWith word opening && word.getLast? == some ')' then
    some ((word.drop opening.length).dropLast)
  else none

/-- The number that some digits spell, if they are digits and there are any. -/
def number? (digits : List Char) : Option Nat :=
  if digits.isEmpty then none
  else digits.foldlM (fun n c => (Text.digitValue? c).map (n * 10 + ·)) 0

/-- A number that a part of a colour may be. -/
def isLevel (digits : List Char) : Bool := (number? digits).any (· ≤ 255)

/-- A word in lower case is a colour: by its name, by its number, or by its parts. -/
def isColor (word : List Char) : Bool :=
  (Text.words [] colorNames.toList).contains word ||
    (word.head? == some '#' && word.length == 7 &&
      (word.drop 1).all fun c => Text.isDigit c || ('a' ≤ c && c ≤ 'f')) ||
    ((argument? "color" word).any fun n =>
      n.length ≤ 3 && n.all Text.isDigit && isLevel n) ||
    ((argument? "rgb" word).any fun parts =>
      let levels := Text.cutAt ',' [] parts
      levels.length == 3 && levels.all isLevel)

/-! ## Names -/

/-- The style that sets nothing. -/
def empty : Style := ⟨[], none, none, none⟩

/-- A style that sets an attribute or resets it, whatever it did before. -/
def withAttribute (s : Style) (name : String) (sets : Bool) : Style :=
  { s with attributes := s.attributes.filter (·.1 != name) ++ [(name, sets)] }

/-- A word in lower case. -/
def lowered (word : List Char) : String := String.ofList (Text.lowerChars word)

/-- The style that words name, after the words that `s` stands for. -/
def ofWords? (s : Style) : List (List Char) → Option Style
  | [] => some s
  | word :: rest =>
    match lowered word, rest with
    | "on", color :: rest =>
      if isColor (Text.lowerChars color) then
        ofWords? { s with background := some (lowered color) } rest
      else none
    | "not", name :: rest =>
      (attribute? (String.ofList name)).bind fun a => ofWords? (s.withAttribute a false) rest
    | "link", address :: rest => ofWords? { s with link := some (String.ofList address) } rest
    | name, rest =>
      if ["on", "not", "link"].contains name then none
      else match attribute? name with
        | some a => ofWords? (s.withAttribute a true) rest
        | none =>
          if isColor name.toList then ofWords? { s with color := some name } rest else none

/-- The words that name a style, in their order. -/
def toWords (s : Style) : List String :=
  (attributeNames.flatMap fun a => (s.attributes.filter (·.1 == a.1)).map fun (name, sets) =>
      if sets then name else "not " ++ name)
    ++ s.color.toList
    ++ (s.background.map ("on " ++ ·)).toList
    ++ (s.link.map ("link " ++ ·)).toList

/-- The normal form of a name. -/
def normalName (name : List Char) : String :=
  let lone := String.ofList (Text.trimBlanks name)
  match if lone == "none" then some empty else empty.ofWords? (Text.words [] name) with
  | some s => if s.toWords.isEmpty then "none" else String.intercalate " " s.toWords
  | none => Text.lower lone

end Style

end CommandLine

end SchemaCompiler
