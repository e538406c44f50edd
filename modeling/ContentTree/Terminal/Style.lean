import ContentTree.Number.Integer
import ContentTree.Text.Blank
import ContentTree.Text.LowerCase
/-!
Style names of markup tags. A style is a list of words for attributes, colors and a link; two tags
name the same style if their words have the same effect. A tag with other words is known by its text
alone, unless it has a color of three numbers of which one cannot be read.
-/

set_option autoImplicit false
set_option relaxedAutoImplicit false

namespace ContentTree.Terminal

open ContentTree.Number ContentTree.Text

/-- Why a text cannot be shown. -/
inductive MarkupError where
  | nothingToClose (style : String)
  | badArgument (style : String)
  /-- A number of a color cannot be read. -/
  | badNumber (digits : String)
  deriving DecidableEq, Repr

/-- The names of colors. -/
def colorNames : List String := ["default", "black", "red", "green", "yellow", "blue", "magenta",
  "cyan", "white", "bright_black", "bright_red", "bright_green", "bright_yellow", "bright_blue",
  "bright_magenta", "bright_cyan", "bright_white", "grey0", "gray0", "navy_blue", "dark_blue",
  "blue3", "blue1", "dark_green", "deep_sky_blue4", "dodger_blue3", "dodger_blue2", "green4",
  "spring_green4", "turquoise4", "deep_sky_blue3", "dodger_blue1", "green3", "spring_green3",
  "dark_cyan", "light_sea_green", "deep_sky_blue2", "deep_sky_blue1", "spring_green2", "cyan3",
  "dark_turquoise", "turquoise2", "green1", "spring_green1", "medium_spring_green", "cyan2",
  "cyan1", "dark_red", "deep_pink4", "purple4", "purple3", "blue_violet", "orange4", "grey37",
  "gray37", "medium_purple4", "slate_blue3", "royal_blue1", "chartreuse4", "dark_sea_green4",
  "pale_turquoise4", "steel_blue", "steel_blue3", "cornflower_blue", "chartreuse3", "cadet_blue",
  "sky_blue3", "steel_blue1", "pale_green3", "sea_green3", "aquamarine3", "medium_turquoise",
  "chartreuse2", "sea_green2", "sea_green1", "aquamarine1", "dark_slate_gray2", "dark_magenta",
  "dark_violet", "purple", "light_pink4", "plum4", "medium_purple3", "slate_blue1", "yellow4",
  "wheat4", "grey53", "gray53", "light_slate_grey", "light_slate_gray", "medium_purple",
  "light_slate_blue", "dark_olive_green3", "dark_sea_green", "light_sky_blue3", "sky_blue2",
  "dark_sea_green3", "dark_slate_gray3", "sky_blue1", "chartreuse1", "light_green", "pale_green1",
  "dark_slate_gray1", "red3", "medium_violet_red", "magenta3", "dark_orange3", "indian_red",
  "hot_pink3", "medium_orchid3", "medium_orchid", "medium_purple2", "dark_goldenrod",
  "light_salmon3", "rosy_brown", "grey63", "gray63", "medium_purple1", "gold3", "dark_khaki",
  "navajo_white3", "grey69", "gray69", "light_steel_blue3", "light_steel_blue", "yellow3",
  "dark_sea_green2", "light_cyan3", "light_sky_blue1", "green_yellow", "dark_olive_green2",
  "dark_sea_green1", "pale_turquoise1", "deep_pink3", "magenta2", "hot_pink2", "orchid",
  "medium_orchid1", "orange3", "light_pink3", "pink3", "plum3", "violet", "light_goldenrod3",
  "tan", "misty_rose3", "thistle3", "plum2", "khaki3", "light_goldenrod2", "light_yellow3",
  "grey84", "gray84", "light_steel_blue1", "yellow2", "dark_olive_green1", "honeydew2",
  "light_cyan1", "red1", "deep_pink2", "deep_pink1", "magenta1", "orange_red1", "indian_red1",
  "hot_pink", "dark_orange", "salmon1", "light_coral", "pale_violet_red1", "orchid2", "orchid1",
  "orange1", "sandy_brown", "light_salmon1", "light_pink1", "pink1", "plum1", "gold1",
  "navajo_white1", "misty_rose1", "thistle1", "yellow1", "light_goldenrod1", "khaki1", "wheat1",
  "cornsilk1", "grey100", "gray100", "grey3", "gray3", "grey7", "gray7", "grey11", "gray11",
  "grey15", "gray15", "grey19", "gray19", "grey23", "gray23", "grey27", "gray27", "grey30",
  "gray30", "grey35", "gray35", "grey39", "gray39", "grey42", "gray42", "grey46", "gray46",
  "grey50", "gray50", "grey54", "gray54", "grey58", "gray58", "grey62", "gray62", "grey66",
  "gray66", "grey70", "gray70", "grey74", "gray74", "grey78", "gray78", "grey82", "gray82",
  "grey85", "gray85", "grey89", "gray89", "grey93", "gray93"]

/-- The attributes in the order in which they are named, with their short names. -/
def attributeNames : List (String × List String) :=
  [("bold", ["b"]), ("dim", ["d"]), ("italic", ["i"]), ("underline", ["u"]), ("blink", []),
    ("blink2", []), ("reverse", ["r"]), ("conceal", ["c"]), ("strike", ["s"]),
    ("underline2", ["uu"]), ("frame", []), ("encircle", []), ("overline", ["o"])]

/-- The attribute that a word names. -/
def attributeFor? (word : String) : Option String :=
  (attributeNames.find? fun entry => entry.1 == word || entry.2.contains word).map (·.1)

/-- Whether a text is a number below 256. -/
def isColorNumber (digits : List Char) : Bool :=
  !digits.isEmpty && digits.all (·.isDigit) &&
    digits.foldl (fun n c => n * 10 + (c.toNat - 48)) 0 < 256

/-- The text between a beginning and a closing parenthesis. -/
def inside? (start : String) (text : List Char) : Option (List Char) :=
  if start.toList.isPrefixOf text && text.getLast? == some ')' then
    some ((text.drop start.length).dropLast)
  else none

/-- Whether a word is a color by itself: a name, six hexadecimal digits or a number. -/
def isSingleColor (word : String) : Bool :=
  let chars := word.toList
  colorNames.contains word ||
    (match chars with
      | '#' :: digits =>
        digits.length == 6 && digits.all fun c => c.isDigit || ('a' ≤ c && c ≤ 'f')
      | _ => false) ||
    (inside? "color(" chars).any fun n => n.length ≤ 3 && isColorNumber n

/-- Whether numbers with commas between them are the three parts of a color. A part without digits
or with too many of them cannot be read. -/
def isTriple (numbers : List Char) : Except MarkupError Bool :=
  let parts := numbers.splitOn ','
  let isDigits := numbers.all fun c => c == ',' || (decimalDigit? c).isSome
  if numbers = [] ∨ !isDigits ∨ parts.length ≠ 3 then .ok false
  else
    match parts.find? fun digits => digits.isEmpty || decide (maxIntegerDigits < digits.length) with
    | some digits => .error (.badNumber (String.ofList digits))
    | none => .ok (parts.all fun digits => digitsValue digits < 256)

/-- Whether a word is a color, by itself or by three numbers. -/
def isColor (word : String) : Except MarkupError Bool :=
  if isSingleColor word then .ok true
  else
    match inside? "rgb(" word.toList with
    | some numbers => isTriple numbers
    | none => .ok false

/-- What the words of a style say. -/
structure Style where
  attributes : List (String × Bool) := []
  color? : Option String := none
  background? : Option String := none
  link? : Option String := none

namespace Style

/-- Reads the words of a style after those read before, unless some are no style. -/
def read? (style : Style) : List String → Except MarkupError (Option Style)
  | [] => .ok (some style)
  | given :: rest =>
    let word := lowered given
    let setAttribute (name : String) (value : Bool) : Style :=
      { style with
        attributes := (name, value) :: style.attributes.filter fun entry => entry.1 != name }
    match word, rest with
    | "on", color :: rest => do
      if ← isColor (lowered color) then
        read? { style with background? := some (lowered color) } rest
      else return none
    | "not", name :: rest =>
      match attributeFor? name with
      | some name => (setAttribute name false).read? rest
      | none => .ok none
    | "link", target :: rest => read? { style with link? := some target } rest
    | "on", [] | "not", [] | "link", [] => .ok none
    | word, rest =>
      match attributeFor? word with
      | some name => (setAttribute name true).read? rest
      | none => do
        if ← isColor word then read? { style with color? := some word } rest else return none

/-- The words of a style in their order. -/
def words (style : Style) : List String :=
  attributeNames.flatMap (fun entry => match style.attributes.lookup entry.1 with
    | some true => [entry.1]
    | some false => ["not", entry.1]
    | none => []) ++
  style.color?.toList ++ (style.background?.map fun color => ["on", color]).getD [] ++
  (style.link?.map fun target => ["link", target]).getD []

/-- The words in the text of a tag. -/
def wordsIn (text : String) : List String :=
  ((text.toList.splitOnP isBlank).filter (!·.isEmpty)).map String.ofList

/-- The name under which a tag is known. -/
def normalize (text : String) : Except MarkupError String :=
  let words := wordsIn text
  if words = [] ∨ words = ["none"] then .ok "none"
  else
    (read? {} words).map fun
      | some style => " ".intercalate style.words
      | none =>
        let chars := ((text.toList.dropWhile isBlank).reverse.dropWhile isBlank).reverse
        lowered (String.ofList chars)

end Style

end ContentTree.Terminal
