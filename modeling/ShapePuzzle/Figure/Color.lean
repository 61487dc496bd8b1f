import ShapePuzzle.Text.Blank
import ShapePuzzle.Text.DecimalDigit
import ShapePuzzle.Text.LowerCase

/-!
# Colors a figure can show

Hexadecimal digits, a function of amounts, a variable or one of the named colors. Case does not count, and blanks
only where they separate two amounts.
-/
namespace ShapePuzzle.Figure

def namedColors : List String := [
  "aliceblue", "antiquewhite", "aqua", "aquamarine", "azure", "beige", "bisque", "black",
  "blanchedalmond", "blue", "blueviolet", "brown", "burlywood", "cadetblue", "chartreuse",
  "chocolate", "coral", "cornflowerblue", "cornsilk", "crimson", "cyan", "darkblue", "darkcyan",
  "darkgoldenrod", "darkgray", "darkgrey", "darkgreen", "darkkhaki", "darkmagenta",
  "darkolivegreen", "darkorange", "darkorchid", "darkred", "darksalmon", "darkseagreen",
  "darkslateblue", "darkslategray", "darkslategrey", "darkturquoise", "darkviolet", "deeppink",
  "deepskyblue", "dimgray", "dimgrey", "dodgerblue", "firebrick", "floralwhite", "forestgreen",
  "fuchsia", "gainsboro", "ghostwhite", "gold", "goldenrod", "gray", "grey", "green", "greenyellow",
  "honeydew", "hotpink", "indianred", "indigo", "ivory", "khaki", "lavender", "lavenderblush",
  "lawngreen", "lemonchiffon", "lightblue", "lightcoral", "lightcyan", "lightgoldenrodyellow",
  "lightgray", "lightgrey", "lightgreen", "lightpink", "lightsalmon", "lightseagreen",
  "lightskyblue", "lightslategray", "lightslategrey", "lightsteelblue", "lightyellow", "lime",
  "limegreen", "linen", "magenta", "maroon", "mediumaquamarine", "mediumblue", "mediumorchid",
  "mediumpurple", "mediumseagreen", "mediumslateblue", "mediumspringgreen", "mediumturquoise",
  "mediumvioletred", "midnightblue", "mintcream", "mistyrose", "moccasin", "navajowhite", "navy",
  "oldlace", "olive", "olivedrab", "orange", "orangered", "orchid", "palegoldenrod", "palegreen",
  "paleturquoise", "palevioletred", "papayawhip", "peachpuff", "peru", "pink", "plum", "powderblue",
  "purple", "red", "rosybrown", "royalblue", "rebeccapurple", "saddlebrown", "salmon", "sandybrown",
  "seagreen", "seashell", "sienna", "silver", "skyblue", "slateblue", "slategray", "slategrey",
  "snow", "springgreen", "steelblue", "tan", "teal", "thistle", "tomato", "turquoise", "violet",
  "wheat", "white", "whitesmoke", "yellow", "yellowgreen"]

/-- What a blank may separate from an amount behind it. -/
def endsPart (c : Char) : Bool :=
  isDecimalDigit c || c.isAlphanum || c = '%' || c = '.'

def startsAmount (c : Char) : Bool :=
  isDecimalDigit c || c = '.'

/-- Blanks between a part and an amount become a comma and all others are dropped; `last` is what was kept last, and
`apart` tells whether blanks have followed it. -/
def separate (last : Char) (apart : Bool) : List Char → List Char
  | [] => []
  | c :: cs =>
    if isBlank c then separate last true cs
    else if apart && endsPart last && startsAmount c then ',' :: c :: separate c false cs
    else c :: separate c false cs

/-- A color in lower case, with commas alone between its amounts. -/
def spelling (s : String) : List Char :=
  (separate ' ' false (lowerCase s).toList).map fun c => if c = '/' then ',' else c

def isHexDigit (c : Char) : Bool :=
  c.isDigit || 'a' ≤ c && c ≤ 'f'

def isHexColor : List Char → Bool
  | '#' :: digits => [3, 4, 6, 8].contains digits.length && digits.all isHexDigit
  | _ => false

/-- Splits a text at commas. -/
def splitCommas : List Char → List (List Char)
  | [] => [[]]
  | c :: cs => match splitCommas cs with
    | [] => [[c]]
    | part :: parts => if c = ',' then [] :: part :: parts else (c :: part) :: parts

def dropUnit (cs : List Char) : List Char :=
  match cs.reverse with
  | '%' :: rest | 'g' :: 'e' :: 'd' :: rest => rest.reverse
  | _ => cs

/-- Digits and points, with a percent sign or degrees at most behind them. -/
def isAmount (cs : List Char) : Bool :=
  let number := dropUnit cs
  !number.isEmpty && number.all startsAmount

/-- The text between an opening and a closing bracket that are its ends. -/
def inBrackets? : List Char → Option (List Char)
  | '(' :: rest => if rest.getLast? = some ')' then some rest.dropLast else none
  | _ => none

/-- The functions whose amounts alone tell the color. -/
def colorFunctions : List String :=
  ["rgb", "rgba", "hsl", "hsla", "hwb", "lab", "lch", "oklab", "oklch"]

def isSpaceName (cs : List Char) : Bool :=
  !cs.isEmpty && cs.all fun c => c.isAlphanum || c = '-'

/-- Three amounts or four, or the name of a color space and at least three amounts. -/
def isColorFunction (cs : List Char) : Bool :=
  let name := String.ofList (cs.takeWhile (· ≠ '('))
  match inBrackets? (cs.dropWhile (· ≠ '(')) with
  | none => false
  | some inside =>
    let parts := splitCommas inside
    if name = "color" then match parts with
      | space :: amounts => isSpaceName space && 3 ≤ amounts.length && amounts.all isAmount
      | [] => false
    else colorFunctions.contains name && (parts.length = 3 || parts.length = 4) && parts.all isAmount

def isVariable (cs : List Char) : Bool :=
  "var(--".toList.isPrefixOf cs && cs.getLast? = some ')' && 7 ≤ cs.length

def isColor (s : String) : Bool :=
  let cs := spelling s
  isHexColor cs || isColorFunction cs || isVariable cs || namedColors.contains (String.ofList cs)

end ShapePuzzle.Figure
