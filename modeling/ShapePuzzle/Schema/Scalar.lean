import ShapePuzzle.Number.Literal
import ShapePuzzle.Schema.Checked
import ShapePuzzle.Text.Blank

/-!
# Reading numbers from values of other kinds

An integer may be given as a truth value, as a whole float within 64 bits or as decimal digits; a number may
also be given as the text of a float.
-/
namespace ShapePuzzle.Written

/-- Single underscores may stand between characters. -/
def dropUnderscores? (cs : List Char) : Option (List Char) :=
  let doubled := (cs.zip cs.tail).any fun (a, b) => a = '_' && b = '_'
  if cs.head? = some '_' ∨ cs.getLast? = some '_' ∨ doubled then none
  else some (cs.filter (· ≠ '_'))

/-- Goes on behind zeros and underscores, of which `last` is the one passed last, to a digit, a minus or a point. -/
def dropZerosFrom (last : Char) : List Char → Option (List Char)
  | [] => some [last]
  | c :: cs =>
    if c = '0' ∨ c = '_' then dropZerosFrom c cs
    else if c.isDigit ∨ c = '-' then some (c :: cs)
    else if c = '.' then some (last :: c :: cs)
    else none

/-- Drops the zeros in front; one stays if nothing else does or if a point follows. -/
def dropZeros? : List Char → Option (List Char)
  | [] => none
  | c :: cs =>
    if c = '0' then dropZerosFrom c cs
    else if c.isDigit ∨ c = '-' then some (c :: cs)
    else none

/-- Drops a point and the zeros behind it, if there are any and nothing else. -/
def dropFraction (cs : List Char) : List Char :=
  match cs.dropWhile (· ≠ '.') with
  | _ :: zero :: zeros => if (zero :: zeros).all (· = '0') then cs.takeWhile (· ≠ '.') else cs
  | _ => cs

def dropPlus? : List Char → Option (List Char)
  | '+' :: '-' :: _ => none
  | '+' :: cs => some cs
  | cs => some cs

def splitMinus : List Char → Bool × List Char
  | '-' :: cs => (true, cs)
  | cs => (false, cs)

/-- What is left to be read as an integer once all that may surround its digits is dropped. -/
def integerChars? (s : String) : Option (List Char) := do
  let (negative, cs) := splitMinus (← dropPlus? (trimChars isNumberBlank s.toList))
  let cs ← dropUnderscores? (dropFraction (← dropZeros? cs))
  return if negative then '-' :: cs else cs

def longestInteger : Nat := 4300

/-- Digits without a zero in front, unless it is the only one. -/
def isPlain (digits : List Char) : Bool :=
  digits ≠ [] && digits.all Char.isDigit && (digits.length = 1 || digits.head? ≠ some '0')

/-- Whether the text starts with more digits than an integer may have, before anything is dropped. -/
def startsTooLong (s : String) : Bool :=
  let digits := (splitMinus s.toList).2.takeWhile Char.isDigit
  digits.head? ≠ some '0' && longestInteger < digits.length

def integer (s : String) : Checked Int :=
  if startsTooLong s then .issue .integerTooLarge
  else match integerChars? s with
    | none => .issue .unreadableInteger
    | some cs =>
      let (negative, digits) := splitMinus cs
      if isPlain digits ∧ digits.length ≤ longestInteger then
        .good (if negative then -(digitsValue digits) else digitsValue digits)
      else .issue .unreadableInteger

def floatWord? (cs : List Char) : Option Binary64 :=
  let (sign, word) := splitSign cs
  let negative := sign = some '-'
  match String.ofList (word.map Char.toLower) with
  | "inf" | "infinity" => some (.infinite negative)
  | "nan" => some .nan
  | _ => none

/-- A point needs a digit on one of its sides. -/
def floatChars? (cs : List Char) : Option Binary64 :=
  match floatWord? cs with
  | some x => some x
  | none => match Literal.ofChars? cs with
    | some x => if x.whole ++ x.fraction.getD [] = [] then none else some x.toFloat
    | none => none

/-- Blanks may surround a float, and underscores may stand in it, but not both. -/
def float (s : String) : Checked Binary64 :=
  match floatChars? (trimChars isNumberBlank s.toList) with
  | some x => .good x
  | none => match (dropUnderscores? s.toList).bind floatChars? with
    | some x => .good x
    | none => .issue .unreadableFloat

end ShapePuzzle.Written

namespace ShapePuzzle

/-- A whole float within 64 bits. -/
def Binary64.asInteger (x : Binary64) : Checked Int :=
  match x.value? with
  | none => .issue .notFinite
  | some q =>
    if q.den ≠ 1 then .issue .fractional
    else if q.num.natAbs < Nat.pow 2 63 then .good q.num
    else .issue .integerTooLarge

namespace Value

def asInteger : Value → Checked Int
  | .number (.int n) => .good n
  | .number (.float x) => x.asInteger
  | .bool b => .good (if b then 1 else 0)
  | .text s => if hasHalf s then .issue .unreadableText else Written.integer s
  | _ => .issue .notInteger

def asFloat : Value → Checked Binary64
  | .text s => if hasHalf s then .issue .unreadableText else Written.float s
  | .bool b => .good (.finite (if b then 1 else 0))
  | _ => .issue .notFloat

/-- A number is taken as it is; anything else is an integer if it can be, then a float. -/
def asNumber : Value → Checked Number
  | .number n => .good n
  | v => match v.asInteger.under (.variant "int") with
    | .good n => .good (.int n)
    | .bad is => match v.asFloat.under (.variant "float") with
      | .good x => .good (.float x)
      | .bad js => .bad (is ++ js)

end Value
end ShapePuzzle
